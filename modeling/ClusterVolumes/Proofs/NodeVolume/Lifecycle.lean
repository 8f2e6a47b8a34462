import ClusterVolumes.NodeVolume.Publish
import ClusterVolumes.Proofs.Provisioning.VolumeContext
import ClusterVolumes.Site.Mounts

/-!
# The mounts of a node over its calls

A node stages and shows volumes and undoes both, in any order and at any paths. The mount table answers as it is and
never fails, and everything else may answer in any way (`tableAnswers`).

- `NodeCall.effective`: a call leaves the table, or succeeds and mounts its own path, which was free, or succeeds and
  unmounts it;
- a `Lifetime` is made of calls one after the other, each with what it asked; `mounted_after` is one step of it, and
  `Lifetime.mounted_iff` says by the last change of a path whether it is mounted in the end;
- `table_given_back`: what is shown at a free path and is then shown no longer leaves nothing behind.
-/

namespace ClusterVolumes

open Site (MountTable)

/-- The path that a call mounts. -/
def Call.mountTarget? : Call → Option String
  | .mounts (.formatAndMount _ target ..) => some target
  | .mounts (.mount _ target ..) => some target
  | _ => none

/-- The paths that were mounted, the latest first. -/
def History.mountTargets (past : History) : List String :=
  past.filterMap fun e => e.request.mountTarget?

namespace History

@[simp] theorem mountTargets_nil : mountTargets [] = [] := rfl

/-- An exchange adds the path that it mounts. -/
@[simp] theorem mountTargets_cons (e : Program.Exchange collaborators) (past : History) :
    mountTargets (e :: past) = (Call.mountTarget? e.request).toList ++ past.mountTargets := by
  cases h : Call.mountTarget? e.request with
  | none => exact List.filterMap_cons_none h
  | some path => exact List.filterMap_cons_some h

@[simp] theorem mountTargets_append (made past : History) :
    mountTargets (made ++ past) = made.mountTargets ++ past.mountTargets :=
  List.filterMap_append ..

end History

/-- A table that keeps something else at one path. -/
def Site.MountTable.put (m : MountTable) (path : String) (source : Option String) : MountTable :=
  { m with mounted := m.mounted.put path source }

namespace NodeVolume

open Csi Service

/-! ## A table that answers as it is -/

/-- The mount table answers as it is, and everything else may be answered in any way. Beside the table stand the
exchanges so far. -/
def tableAnswers : Environment collaborators (MountTable × History) :=
  fun s call x t => t.2 = ⟨call, x⟩ :: s.2 ∧
    match call, x with
    | .mounts r, x => MountTable.answer r s.1 = (x, t.1)
    | _, _ => t.1 = s.1

/-- What the call mounts is not mounted. -/
def Fresh (s : MountTable × History) (call : Call) : Prop :=
  ∀ path, call.mountTarget? = some path → s.1.mounted path = none

theorem remembers_tableAnswers : Program.Remembers tableAnswers Prod.snd :=
  fun _ _ _ _ e => e.1

section

variable {α : Type} {bad : Failure → MountTable × History → Prop} {m : MountTable} {past : History}

/-- The table answers a request about mounts. -/
theorem ask_mounts {r : Mount.Request} {good : r.Answer → MountTable × History → Prop}
    (fresh : Fresh (m, past) (.mounts r))
    (next : onOutcome good bad (m.answer r).1 ((m.answer r).2, ⟨.mounts r, (m.answer r).1⟩ :: past)) :
    Ensures tableAnswers Fresh (mounts r) good bad (m, past) := by
  refine ⟨fresh, ?_⟩
  rintro x ⟨m', now⟩ ⟨rfl, answered⟩
  obtain ⟨rfl, rfl⟩ := Prod.mk.inj answered
  exact next

/-- A call that asks nothing of the table. -/
def Apart (call : Call) : Prop :=
  ∀ r, call ≠ .mounts r

theorem Apart.mountTarget? {call : Call} (apart : Apart call) : call.mountTarget? = none := by
  cases call with
  | mounts r => exact absurd rfl (apart r)
  | _ => rfl

/-- A service that asks nothing of the table leaves it. -/
theorem ask_apart {service : Service α} {good : α → MountTable × History → Prop} (h : service.Asks Apart)
    (hg : ∀ a now, now.mountTargets = past.mountTargets → good a (m, now))
    (hb : ∀ f now, now.mountTargets = past.mountTargets → bad f (m, now)) :
    Ensures tableAnswers Fresh service good bad (m, past) := by
  have kept : Ensures tableAnswers Fresh service (fun _ t => t.1 = m ∧ t.2.mountTargets = past.mountTargets)
      (fun _ t => t.1 = m ∧ t.2.mountTargets = past.mountTargets) (m, past) := by
    refine h.ensures remembers_tableAnswers (fun s call apart _ path mounts => ?_) (fun s call x t apart kept e => ?_)
      ⟨rfl, rfl⟩
    · rw [apart.mountTarget?] at mounts
      cases mounts
    · obtain ⟨now, table⟩ := e
      have same : t.1 = s.1 := by
        cases call with
        | mounts r => exact absurd rfl (apart r)
        | _ => exact table
      rw [now, History.mountTargets, List.filterMap_cons, apart.mountTarget?]
      exact ⟨same.trans kept.1, kept.2⟩
  refine kept.post ?_ ?_
  · rintro a ⟨_, now⟩ ⟨rfl, same⟩
    exact hg a now same
  · rintro f ⟨_, now⟩ ⟨rfl, same⟩
    exact hb f now same

end

/-! ## Single calls -/

/-- A call that changes mounts. -/
inductive NodeCall where
  | stage (finder : Device.Finder) (request : NodeStageVolumeRequest)
  | publish (request : NodePublishVolumeRequest)
  | unpublish (request : NodeUnpublishVolumeRequest)
  | unstage (request : NodeUnstageVolumeRequest)

namespace NodeCall

/-- What serves the call. -/
def service : NodeCall → Service Unit
  | stage finder request => NodeVolume.stage finder request
  | publish request => NodeVolume.publish request
  | unpublish request => NodeVolume.unpublish request
  | unstage request => NodeVolume.unstage request

/-- The staging or target path of the call. -/
def path : NodeCall → String
  | stage _ request => request.stagingTargetPath
  | publish request => request.targetPath
  | unpublish request => request.targetPath
  | unstage request => request.stagingTargetPath

/-- Is the call there to unmount? -/
def undoes : NodeCall → Bool
  | stage .. | publish _ => false
  | unpublish _ | unstage _ => true

/-- What can come of a call: its outcome, the paths that it mounted, and the table afterwards. -/
inductive Effect (c : NodeCall) (m : MountTable) : Except Failure Unit → List String → MountTable → Prop
  | left (outcome : Except Failure Unit) (kept : outcome = .ok () → c.undoes = false) : Effect c m outcome [] m
  | mounted (source : String) (mounts : c.undoes = false) (free : m.mounted c.path = none) :
      Effect c m (.ok ()) [c.path] (m.put c.path (some source))
  | unmounted (undoes : c.undoes = true) : Effect c m (.ok ()) [] (m.put c.path none)

/-- What came of a call that began with a table and some exchanges. -/
def Came (c : NodeCall) (m : MountTable) (past : History) (outcome : Except Failure Unit) (t : MountTable × History) :
    Prop :=
  ∃ new, t.2.mountTargets = new ++ past.mountTargets ∧ Effect c m outcome new t.1

/-- The effect of a call along every run, and it mounts nothing that is mounted. -/
def Effective (c : NodeCall) : Prop :=
  ∀ m past, Ensures tableAnswers Fresh c.service (fun _ t => Came c m past (.ok ()) t)
    (fun f t => Came c m past (.error f) t) (m, past)

section

variable {c : NodeCall} {m : MountTable} {past now : History}

theorem came_left {outcome : Except Failure Unit} (kept : outcome = .ok () → c.undoes = false)
    (same : now.mountTargets = past.mountTargets) : Came c m past outcome (m, now) :=
  ⟨[], same, .left outcome kept⟩

theorem came_mounted {source : String} (mounts : c.undoes = false) (free : m.mounted c.path = none)
    (same : now.mountTargets = c.path :: past.mountTargets) :
    Came c m past (.ok ()) (m.put c.path (some source), now) :=
  ⟨[c.path], same, .mounted source mounts free⟩

theorem came_unmounted (undoes : c.undoes = true) (same : now.mountTargets = past.mountTargets) :
    Came c m past (.ok ()) (m.put c.path none, now) :=
  ⟨[], same, .unmounted undoes⟩

end

theorem stagePlanOf_staging {request : NodeStageVolumeRequest} {plan : StagePlan} (h : stagePlanOf request = .ok plan) :
    plan.staging = request.stagingTargetPath := by
  simp only [stagePlanOf, bind, Except.bind] at h
  repeat' split at h
  all_goals cases h
  rfl

theorem stage_effective (finder : Device.Finder) (request : NodeStageVolumeRequest) :
    (stage finder request).Effective := by
  intro m past
  unfold service NodeVolume.stage
  refine ensures_bind.mpr ?_
  cases read : stagePlanOf request with
  | error f => exact came_left nofun rfl
  | ok plan =>
    have staging : plan.staging = (stage finder request).path := stagePlanOf_staging read
    refine ensures_ofExcept.mpr ?_
    dsimp only [onOutcome]
    rw [staging]
    split
    · exact came_left (fun _ => rfl) rfl
    refine ensures_bind.mpr (ask_mounts nofun ?_)
    dsimp only [MountTable.answer, onOutcome]
    split
    · exact came_left (fun _ => rfl) rfl
    rename_i notMounted
    have free : m.mounted (stage finder request).path = none := by simpa using notMounted
    refine ensures_bind.mpr ?_
    cases VolumeOptions.ofMap request.volumeContext with
    | error f => exact came_left nofun rfl
    | ok options =>
      refine ensures_ofExcept.mpr (ensures_bind.mpr ?_)
      refine ask_apart (Device.resolve_asks nofun nofun nofun plan.devicePath) (fun device now found => ?_)
        fun f now found => came_left nofun found
      refine ensures_bind.mpr (ask_apart (ensureFolder_asks nofun) (fun _ now' made => ?_)
        fun f now' made => came_left nofun (made.trans found))
      exact ask_mounts (fun path eq => Option.some.inj eq ▸ free)
        (came_mounted rfl free (congrArg (_ :: ·) (made.trans found)))

theorem publish_effective (request : NodePublishVolumeRequest) : (publish request).Effective := by
  intro m past
  unfold service NodeVolume.publish
  refine ensures_bind.mpr ?_
  cases publishCapabilityOf request with
  | error f => exact came_left nofun rfl
  | ok capability =>
    refine ensures_ofExcept.mpr (ensures_bind.mpr (ask_mounts nofun ?_))
    dsimp only [MountTable.answer, onOutcome]
    split
    · exact came_left (fun _ => rfl) rfl
    rename_i notMounted
    have free : m.mounted request.targetPath = none := by simpa using notMounted
    refine ensures_bind.mpr (ask_apart (ensureFolder_asks nofun) (fun _ now made => ?_)
      fun f now made => came_left nofun made)
    exact ask_mounts (fun path eq => Option.some.inj eq ▸ free) (came_mounted rfl free (congrArg (_ :: ·) made))

theorem unstage_effective (request : NodeUnstageVolumeRequest) : (unstage request).Effective := by
  intro m past
  unfold service NodeVolume.unstage
  refine ensures_bind.mpr ?_
  cases required request.volumeId "volume id" with
  | error f => exact came_left nofun rfl
  | ok =>
    refine ensures_ofExcept.mpr (ensures_bind.mpr ?_)
    cases required request.stagingTargetPath "staging target path" with
    | error f => exact came_left nofun rfl
    | ok => exact ensures_ofExcept.mpr (ask_mounts nofun (came_unmounted rfl rfl))

theorem unpublish_effective (request : NodeUnpublishVolumeRequest) : (unpublish request).Effective := by
  intro m past
  unfold service NodeVolume.unpublish
  refine ensures_bind.mpr ?_
  cases required request.volumeId "volume id" with
  | error f => exact came_left nofun rfl
  | ok =>
    refine ensures_ofExcept.mpr (ensures_bind.mpr ?_)
    cases required request.targetPath "target path" with
    | error f => exact came_left nofun rfl
    | ok =>
      refine ensures_ofExcept.mpr (ensures_bind.mpr (ask_mounts nofun (ensures_bind.mpr ⟨nofun, ?_⟩)))
      -- whatever comes of the folder, the call succeeds
      rintro x ⟨_, now⟩ ⟨rfl, rfl⟩
      exact came_unmounted rfl rfl

/-- **The effect of a call**: it leaves the mounts, or succeeds and mounts its path, which was not mounted, or succeeds
and unmounts it. -/
theorem effective (c : NodeCall) : c.Effective := by
  cases c with
  | stage finder request => exact stage_effective finder request
  | publish request => exact publish_effective request
  | unpublish request => exact unpublish_effective request
  | unstage request => exact unstage_effective request

variable {c : NodeCall} {m m' : MountTable} {made : History} {outcome : Except Failure Unit}

theorem effect (run : c.service.RunsTo tableAnswers (m, []) outcome (m', made)) :
    Effect c m outcome made.mountTargets m' := by
  obtain ⟨new, targets, effect⟩ : Came c m [] outcome (m', made) := by
    cases outcome with
    | error f => exact (c.effective m []).runsTo_error run
    | ok => exact (c.effective m []).runsTo_ok run
  have same : made.mountTargets = new := targets.trans (List.append_nil new)
  exact same ▸ effect

/-- A call changes at most the entry of its path. -/
theorem Effect.own {new : List String} (h : Effect c m outcome new m') : m' = m.put c.path (m'.mounted c.path) := by
  cases h with
  | left outcome kept => rw [MountTable.put, Keyed.put_of_eq rfl]
  | mounted source mounts free => simp [MountTable.put]
  | unmounted undoes => simp [MountTable.put]

theorem Effect.failed {f : Failure} {new : List String} (h : Effect c m (.error f) new m') : m' = m := by
  cases h
  rfl

end NodeCall

/-! ## Sequences of calls -/

/-- A call in a sequence, with its outcome and the exchanges that it made. -/
structure Event where
  call : NodeCall
  outcome : Except Failure Unit
  made : History

namespace Event

/-- The call was to stage or to show a volume at a path, and it succeeded and mounted it. -/
structure Mounted (e : Event) (path : String) : Prop where
  mounts : e.call.undoes = false
  named : e.call.path = path
  succeeded : e.outcome = .ok ()
  asked : path ∈ e.made.mountTargets

/-- The call was to undo one of them at a path, and it succeeded. -/
structure Unmounted (e : Event) (path : String) : Prop where
  undoes : e.call.undoes = true
  named : e.call.path = path
  succeeded : e.outcome = .ok ()

end Event

/-- Calls one after the other, from one table to another. -/
inductive Lifetime : MountTable → List Event → MountTable → Prop
  | nil (m : MountTable) : Lifetime m [] m
  | cons {m m' last : MountTable} {e : Event} {rest : List Event} :
      e.call.service.RunsTo tableAnswers (m, []) e.outcome (m', e.made) → Lifetime m' rest last →
        Lifetime m (e :: rest) last

/-- A path is mounted after a call if the call mounted it, or it was mounted and the call did not unmount it. -/
theorem mounted_after {m m' : MountTable} {e : Event}
    (run : e.call.service.RunsTo tableAnswers (m, []) e.outcome (m', e.made)) (path : String) :
    (m'.mounted path).isSome ↔ e.Mounted path ∨ (m.mounted path).isSome ∧ ¬e.Unmounted path := by
  have effect := NodeCall.effect run
  obtain ⟨call, outcome, made⟩ := e
  dsimp only at effect
  generalize targets : made.mountTargets = new at effect
  cases effect with
  | left _ kept =>
    have notMounted : ¬Event.Mounted ⟨call, outcome, made⟩ path := fun h => by simpa [targets] using h.asked
    have notUnmounted : ¬Event.Unmounted ⟨call, outcome, made⟩ path :=
      fun h => by simpa [kept h.succeeded] using h.undoes
    simp [notMounted, notUnmounted]
  | mounted source mounts free =>
    have notUnmounted : ¬Event.Unmounted ⟨call, .ok (), made⟩ path := fun h => by simpa [mounts] using h.undoes
    by_cases own : path = call.path
    · subst own
      have mounted : Event.Mounted ⟨call, .ok (), made⟩ call.path := ⟨mounts, rfl, rfl, by simp [targets]⟩
      simp [mounted, MountTable.put]
    · have notMounted : ¬Event.Mounted ⟨call, .ok (), made⟩ path := fun h => own h.named.symm
      simp [notMounted, notUnmounted, MountTable.put, Keyed.put_of_ne _ _ own]
  | unmounted undoes =>
    have notMounted : ¬Event.Mounted ⟨call, .ok (), made⟩ path := fun h => by simpa [undoes] using h.mounts
    by_cases own : path = call.path
    · subst own
      have unmounted : Event.Unmounted ⟨call, .ok (), made⟩ call.path := ⟨undoes, rfl, rfl⟩
      simp [notMounted, unmounted, MountTable.put]
    · have notUnmounted : ¬Event.Unmounted ⟨call, .ok (), made⟩ path := fun h => own h.named.symm
      simp [notMounted, notUnmounted, MountTable.put, Keyed.put_of_ne _ _ own]

/-- A path was mounted at the start or by one of the calls, and no later call unmounted it. -/
def StaysMounted (start : MountTable) (events : List Event) (path : String) : Prop :=
  ((start.mounted path).isSome ∧ ∀ e ∈ events, ¬e.Unmounted path) ∨
    ∃ before e after, events = before ++ e :: after ∧ e.Mounted path ∧ ∀ later ∈ after, ¬later.Unmounted path

theorem staysMounted_cons {m m' : MountTable} {e : Event} {rest : List Event} {path : String}
    (step : (m'.mounted path).isSome ↔ e.Mounted path ∨ (m.mounted path).isSome ∧ ¬e.Unmounted path) :
    StaysMounted m (e :: rest) path ↔ StaysMounted m' rest path := by
  constructor
  · rintro (⟨mounted, none⟩ | ⟨_ | ⟨_, before⟩, e', after, eq, mounted, none⟩)
    · obtain ⟨notNow, none⟩ := List.forall_mem_cons.mp none
      exact .inl ⟨step.mpr (.inr ⟨mounted, notNow⟩), none⟩
    · obtain ⟨rfl, rfl⟩ := List.cons.inj eq
      exact .inl ⟨step.mpr (.inl mounted), none⟩
    · exact .inr ⟨before, e', after, (List.cons.inj eq).2, mounted, none⟩
  · rintro (⟨mounted, none⟩ | ⟨before, e', after, rfl, mounted, none⟩)
    · rcases step.mp mounted with now | ⟨mounted, notNow⟩
      · exact .inr ⟨[], e, rest, rfl, now, none⟩
      · exact .inl ⟨mounted, List.forall_mem_cons.mpr ⟨notNow, none⟩⟩
    · exact .inr ⟨e :: before, e', after, rfl, mounted, none⟩

/-- What is mounted after a sequence of calls. -/
theorem Lifetime.mounted_iff {start last : MountTable} {events : List Event} (h : Lifetime start events last)
    (path : String) : (last.mounted path).isSome ↔ StaysMounted start events path := by
  induction h with
  | nil m => simp [StaysMounted]
  | cons run _ ih => exact ih.trans (staysMounted_cons (mounted_after run path)).symm

/-! ## Showing a volume and no longer -/

section

variable {shown : NodePublishVolumeRequest} {gone : NodeUnpublishVolumeRequest} {m m₁ m₂ : MountTable}
  {made₁ made₂ : History} {outcome : Except Failure Unit}

/-- What is shown at a path that was free and is then shown no longer leaves the table as it was. -/
theorem table_given_back (same : gone.targetPath = shown.targetPath) (free : m.mounted shown.targetPath = none)
    (first : (publish shown).RunsTo tableAnswers (m, []) outcome (m₁, made₁))
    (second : (unpublish gone).RunsTo tableAnswers (m₁, []) (.ok ()) (m₂, made₂)) : m₂ = m := by
  have cleared : m₂ = m₁.put shown.targetPath none := by
    have effect := NodeCall.effect (c := .unpublish gone) second
    generalize made₂.mountTargets = new at effect
    cases effect with
    | left _ kept => cases kept rfl
    | mounted _ mounts _ => cases mounts
    | unmounted _ => rw [← same]; rfl
  rw [cleared, (NodeCall.effect (c := .publish shown) first).own]
  simp only [MountTable.put, NodeCall.path, Keyed.put_put, Keyed.put_of_eq free]

theorem required_eq_ok_iff {value what : String} : required value what = .ok () ↔ value ≠ "" := by
  unfold required
  split <;> simp_all

theorem publishCapabilityOf_target {capability : VolumeCapability} (h : publishCapabilityOf shown = .ok capability) :
    shown.targetPath ≠ "" := by
  by_contra empty
  have refused : required shown.targetPath "target path" = .error (.invalidArgument "target path is required") := by
    rw [empty]
    rfl
  simp only [publishCapabilityOf, refused, bind, Except.bind, throw, throwThe, MonadExceptOf.throw] at h
  repeat' split at h
  all_goals cases h

theorem publish_target (run : (publish shown).RunsTo tableAnswers (m, []) (.ok ()) (m₁, made₁)) :
    shown.targetPath ≠ "" := by
  have told : Ensures tableAnswers (fun _ _ => True) (publish shown) (fun _ _ => shown.targetPath ≠ "")
      (fun _ _ => True) (m, []) := by
    unfold publish
    refine ensures_bind.mpr (ensures_ofExcept.mpr ?_)
    cases read : publishCapabilityOf shown with
    | error f => trivial
    | ok capability => exact ensures_trivial.post (fun _ _ _ => publishCapabilityOf_target read) fun _ _ h => h
  exact told.runsTo_ok run

/-- To show a volume no longer does not fail when it is named with a path. -/
theorem unpublish_succeeds (volume : gone.volumeId ≠ "") (target : gone.targetPath ≠ "")
    (run : (unpublish gone).RunsTo tableAnswers (m, []) outcome (m₁, made₁)) : outcome = .ok () := by
  have never : Ensures tableAnswers Fresh (unpublish gone) (fun _ _ => True) (fun _ _ => False) (m, []) := by
    unfold unpublish
    rw [required_eq_ok_iff.mpr volume, required_eq_ok_iff.mpr target]
    refine ensures_bind.mpr (ensures_bind.mpr (ensures_bind.mpr (ask_mounts nofun ?_)))
    exact ensures_bind.mpr ⟨nofun, fun _ _ _ => trivial⟩
  cases outcome with
  | error f => exact (never.runsTo_error run).elim
  | ok => rfl

end

/-- **The mounts of a node over a sequence of calls.** From a table that never fails by itself, any calls are made one
after the other, with any requests, whatever the files and the rest of the node answer.

- In the end a path is mounted exactly if it was mounted at the start or by a call, and no later call unmounted it;
- a call mounts only what is not mounted, changes at most the entry of its own path, and if it fails changes nothing;
- a volume that is shown at a free path and then no longer leaves the table as it was, and what was shown can be undone
  without failure. -/
theorem mounts_over_lifetime {start last : MountTable} {events : List Event} (h : Lifetime start events last) :
    (∀ path, (last.mounted path).isSome ↔
      ((start.mounted path).isSome ∧ ∀ e ∈ events, ¬e.Unmounted path) ∨
        ∃ before e after, events = before ++ e :: after ∧ e.Mounted path ∧ ∀ later ∈ after, ¬later.Unmounted path) ∧
      (∀ (c : NodeCall) m past, Ensures tableAnswers Fresh c.service
        (fun _ t => t.1 = m.put c.path (t.1.mounted c.path)) (fun _ t => t.1 = m) (m, past)) ∧
      ∀ (shown : NodePublishVolumeRequest) (gone : NodeUnpublishVolumeRequest) (m m₁ m₂ : MountTable)
        (made₁ made₂ : History) (o₁ o₂ : Except Failure Unit), gone.targetPath = shown.targetPath →
        m.mounted shown.targetPath = none → (publish shown).RunsTo tableAnswers (m, []) o₁ (m₁, made₁) →
        (unpublish gone).RunsTo tableAnswers (m₁, []) o₂ (m₂, made₂) →
        (o₂ = .ok () → m₂ = m) ∧ (o₁ = .ok () → gone.volumeId ≠ "" → o₂ = .ok ()) := by
  refine ⟨h.mounted_iff, fun c m past => ?_, fun shown gone m m₁ m₂ made₁ made₂ o₁ o₂ same free first second => ?_⟩
  · refine (c.effective m past).post ?_ ?_
    · rintro - t ⟨new, -, effect⟩
      exact effect.own
    · rintro f t ⟨new, -, effect⟩
      exact effect.failed
  · refine ⟨?_, ?_⟩
    · rintro rfl
      exact table_given_back same free first second
    · rintro rfl volume
      exact unpublish_succeeds volume (same ▸ publish_target first) second

/-! ### A lifetime -/

/-- The mount table answers, the files let everything be done, and nobody else is there. -/
def obliging : Program.Handler collaborators MountTable :=
  fun (call : Call) m =>
    match call with
    | .mounts r => m.answer r
    | .cluster region _ => (.error (.regionNotFound region), m)
    | .orchestrator _ => (.error (.internal ""), m)
    | .files => (.empty, m)
    | .makeFolders _ | .removeFolder _ | .writeFile .. => (.ok (), m)
    | .deadline _ => (true, m)
    | .sleep _ | .acquire _ | .release _ => ((), m)

theorem obliging_allowed (call : Call) (m : MountTable) (past : History) :
    tableAnswers (m, past) call (obliging call m).1 ((obliging call m).2, ⟨call, (obliging call m).1⟩ :: past) := by
  refine ⟨rfl, ?_⟩
  cases call <;> rfl

/-- Calls one after the other with what came of each, and the table in the end. -/
def play : MountTable → List NodeCall → List Event × MountTable
  | m, [] => ([], m)
  | m, c :: rest =>
    let ended := c.service.run.run (Program.recording obliging) (m, [])
    let (events, last) := play ended.2.1 rest
    (⟨c, ended.1, ended.2.2⟩ :: events, last)

theorem lifetime_play (m : MountTable) (calls : List NodeCall) : Lifetime m (play m calls).1 (play m calls).2 := by
  induction calls generalizing m with
  | nil => exact .nil m
  | cons c rest ih =>
    have run := Program.runsTo_view (h := obliging) (E := tableAnswers) (K := fun _ => True) id (fun _ _ _ => trivial)
      (fun call s _ => obliging_allowed call s.1 s.2) c.service.run (s := (m, [])) trivial
    exact .cons run (ih _)

namespace TwoPods

/-- The volume is staged. -/
def start : MountTable where
  mounted := Keyed.empty.put "/staged" (some "/dev/sdb")

def staging : NodeStageVolumeRequest where
  volumeId := "r1/z1/data/vm-9999-pvc-1"
  publishContext := TextMap.ofList [(Provisioning.publishDevicePath, "/dev/sdb")]
  stagingTargetPath := "/staged"
  volumeCapability := some { accessMode := ⟨.singleNodeWriter⟩ }

/-- The volume is shown to a pod. -/
def showing (pod : String) : NodePublishVolumeRequest where
  volumeId := staging.volumeId
  publishContext := staging.publishContext
  stagingTargetPath := staging.stagingTargetPath
  targetPath := pod
  volumeCapability := staging.volumeCapability

/-- The volume is no longer shown to a pod. -/
def leaving (pod : String) : NodeUnpublishVolumeRequest where
  volumeId := staging.volumeId
  targetPath := pod

/-- The volume is staged once more and shown to two pods, one of them is gone, and a call without a path is made. -/
def calls : List NodeCall :=
  [.stage ⟨"/sys", 0, 1⟩ staging, .publish (showing "/a"), .publish (showing "/b"), .unpublish (leaving "/a"),
    .unpublish (leaving "")]

end TwoPods

set_option maxRecDepth 4000 in
/-- One of two pods is gone, and the volume is still staged and shown to the other one. -/
theorem mounts_of_two_pods :
    Lifetime TwoPods.start (play TwoPods.start TwoPods.calls).1 (play TwoPods.start TwoPods.calls).2 ∧
      (play TwoPods.start TwoPods.calls).1.map (fun e => (e.outcome.isOk, e.made.mountTargets)) =
        [(true, []), (true, ["/a"]), (true, ["/b"]), (true, []), (false, [])] ∧
      (∃ before e after, (play TwoPods.start TwoPods.calls).1 = before ++ e :: after ∧ e.Mounted "/b" ∧
        ∀ later ∈ after, ¬later.Unmounted "/b") ∧
      ["/staged", "/a", "/b"].map (fun path => ((play TwoPods.start TwoPods.calls).2.mounted path).isSome) =
        [true, false, true] := by
  have lifetime := lifetime_play TwoPods.start TwoPods.calls
  have mounted : ((play TwoPods.start TwoPods.calls).2.mounted "/b").isSome = true := by decide +kernel
  refine ⟨lifetime, by decide +kernel, ?_, by decide +kernel⟩
  rcases ((mounts_over_lifetime lifetime).1 "/b").mp mounted with ⟨atStart, -⟩ | byCall
  · have free : (TwoPods.start.mounted "/b").isSome = false := by decide +kernel
    rw [free] at atStart
    cases atStart
  · exact byCall

end NodeVolume

end ClusterVolumes
