import ClusterVolumes.Proofs.Provisioning.CreationCalls
import ClusterVolumes.Proofs.Site.Prompt

/-!
# Failures of clusters while a volume is made

A creation asks the cluster of its region only, and for four things (`Wanted`). The first request that fails is the last
one, and it ends the creation (`Surfaces`). Its failure is told as a fault of the caller's own request, with its text,
unless it is the request for the members of the cluster: the failure of that one is told as it is (`reportedAs`).

So the caller is blamed, with the text of what failed, exactly if another request failed or the failure blames the
caller already (`createVolume_failures`). Nothing was changed before the request that failed, so the disks are as they
were if it left them.
-/

namespace ClusterVolumes

open Csi Service

namespace Provisioning

/-! ## What is asked -/

/-- What a creation asks of others: its cluster, for four things, and the locks. -/
inductive Wanted (plan : Plan) : Call → Prop
  | members : Wanted plan (.cluster plan.region .members)
  | status (node : String) : Wanted plan (.cluster plan.region (.storageStatus node plan.options.storage))
  | content (node : String) : Wanted plan (.cluster plan.region (.storageContent node plan.options.storage))
  | disk (node : String) (v : VolumeHandle) :
      Wanted plan (.cluster plan.region (.createDisk node plan.options.storage (diskFor plan v)))
  | acquire (key : String) : Wanted plan (.acquire key)
  | release (key : String) : Wanted plan (.release key)

theorem createOn_asks (plan : Plan) (name node : String) : (createOn plan name node).Asks (Wanted plan) := by
  have provided (v : VolumeHandle) : (ensureDisk plan node v).Asks (Wanted plan) := by
    unfold ensureDisk
    refine (asks_cluster (.content node)).rewording.bind fun content => ?_
    split
    · split
      · exact asks_throw
      · exact asks_pure
    · exact (asks_cluster (.disk node v)).rewording.bind fun _ => asks_pure
  unfold createOn
  refine (asks_cluster (.status node)).rewording.bind fun status => asks_ofExcept.bind fun zone => ?_
  exact ((provided _).holding (.acquire _) (.release _)).bind fun _ => asks_pure

/-- Nothing is asked without a plan. -/
theorem createVolume_asks {κ : Type} (fleet : Fleet κ) (request : CreateVolumeRequest) :
    (createVolume fleet request).Asks fun call => ∃ plan, planOf fleet request = .ok plan ∧ Wanted plan call := by
  refine asks_computed fun plan planned => ?_
  have wanted : ∀ call, Wanted plan call → ∃ plan, planOf fleet request = .ok plan ∧ Wanted plan call :=
    fun call h => ⟨plan, planned, h⟩
  have rest (node : String) := (createOn_asks plan request.name node).mono wanted
  split
  · unfold Fleet.firstOnlineNode
    refine Asks.bind ((asks_cluster (wanted _ .members)).bind fun members => ?_) rest
    split
    · exact asks_pure
    · exact asks_throw
  · exact asks_pure.bind rest

/-! ## What is reported -/

/-- How a creation reports that a request to the cluster failed. -/
def reportedAs (r : Hypervisor.Request) (f : Failure) : Failure :=
  if r = .members then f else asInvalid f

/-- The outcome is a fault of the caller's request, in which the text of a failure stands. -/
def Blames {α : Type} (f : Failure) (outcome : Except Failure α) : Prop :=
  ∃ g, outcome = .error g ∧ g.status = .invalidArgument ∧ f.message.toList <:+: g.message.toList

/-- The caller is blamed with the text of a failure, unless the request for the members failed with it and it blames
someone else. -/
theorem blames_reportedAs_iff {α : Type} {r : Hypervisor.Request} {f : Failure} :
    Blames f (.error (reportedAs r f) : Except Failure α) ↔ r ≠ .members ∨ f.status = .invalidArgument := by
  unfold reportedAs
  by_cases members : r = .members
  · rw [if_pos members]
    constructor
    · rintro ⟨g, e, blames, -⟩
      cases e
      exact .inr blames
    · rintro (other | blames)
      · exact absurd members other
      · exact ⟨f, rfl, blames, List.infix_rfl⟩
  · rw [if_neg members]
    have told : (asInvalid f).message = "Invalid argument: " ++ f.message := rfl
    refine iff_of_true ⟨asInvalid f, rfl, rfl, ?_⟩ (.inl members)
    rw [told, String.toList_append]
    exact (List.suffix_append _ _).isInfix

/-- All requests were heard, or the last one failed, and with it the whole, after requests that were heard and changed
nothing. -/
inductive Surfaces {α : Type} (outcome : Except Failure α) (made : History) : Prop
  | heard : made.AllSucceeded → Surfaces outcome made
  | failed {region : String} {r : Hypervisor.Request} {f : Failure} (later earlier : History) :
      made = later ++ Exchange.cluster region r (.error f) :: earlier → later.asked = [] → earlier.AllSucceeded →
        earlier.Without Call.changesDisks → outcome = .error (reportedAs r f) → Surfaces outcome made

section

variable {α β : Type} {outcome : Except Failure α} {made more : History}

theorem surfaces_failed {region : String} {r : Hypervisor.Request} {f : Failure} (heard : made.AllSucceeded)
    (calm : made.Without Call.changesDisks) (reported : outcome = .error (reportedAs r f)) :
    Surfaces outcome (Exchange.cluster region r (.error f) :: made) :=
  .failed [] made rfl rfl heard calm reported

/-- After requests that were heard and changed nothing, the rest goes on as it would. -/
theorem Surfaces.after (h : Surfaces outcome more) (heard : made.AllSucceeded) (calm : made.Without Call.changesDisks) :
    Surfaces outcome (more ++ made) := by
  cases h with
  | heard all => exact .heard (List.forall_mem_append.mpr ⟨all, heard⟩)
  | @failed region r f later earlier split last before still reported =>
    subst split
    refine .failed later _ (List.append_assoc ..) last ?_ ?_ reported
    · exact List.forall_mem_append.mpr ⟨before, heard⟩
    · exact List.forall_mem_append.mpr ⟨still, calm⟩

/-- What is done under a lock goes as it would without it. -/
theorem Surfaces.locked (h : Surfaces outcome made) (key : String) : Surfaces outcome (made.locked key) := by
  have acquired : History.AllSucceeded [⟨.acquire key, ()⟩] := History.allSucceeded_cons rfl History.allSucceeded_nil
  cases h.after acquired (History.without_cons rfl History.without_nil) with
  | heard all => exact .heard (History.allSucceeded_cons rfl all)
  | @failed region r f later earlier split last before still reported =>
    have released : made.locked key =
        (⟨.release key, ()⟩ :: later) ++ Exchange.cluster region r (.error f) :: earlier := congrArg (_ :: ·) split
    refine .failed _ _ released ?_ before still reported
    rw [History.asked_cons_lock rfl, last]

theorem Surfaces.map (h : Surfaces outcome made) (g : α → β) : Surfaces (outcome.map g) made := by
  cases h with
  | heard all => exact .heard all
  | failed later earlier split last before still reported =>
    exact .failed later earlier split last before still (congrArg (Except.map g) reported)

end

/-! ## The parts of a creation -/

section

variable {plan : Plan} {node name : String} {v : VolumeHandle} {made : History}

/-- A request that was heard and changed nothing. -/
theorem heard_look {region : String} {r : Hypervisor.Request} {a : r.Answer} (looks : r.mutates = false) :
    History.AllSucceeded [Exchange.cluster region r (.ok a)] ∧
      History.Without Call.changesDisks [Exchange.cluster region r (.ok a)] :=
  ⟨History.allSucceeded_cons rfl History.allSucceeded_nil, History.without_cons looks History.without_nil⟩

theorem Provides.surfaces {outcome : Except Failure Unit} (h : Provides plan node v outcome made) :
    Surfaces outcome made := by
  cases h with
  | unlisted => exact surfaces_failed History.allSucceeded_nil History.without_nil rfl
  | there => exact .heard (heard_look rfl).1
  | other => exact .heard (heard_look rfl).1
  | made => exact .heard (History.allSucceeded_cons rfl (heard_look rfl).1)
  | unmade => exact surfaces_failed (heard_look rfl).1 (heard_look rfl).2 rfl

theorem MakesOn.surfaces {outcome : Except Failure CreateVolumeResponse} (h : MakesOn plan node name outcome made) :
    Surfaces outcome made := by
  cases h with
  | untold => exact surfaces_failed History.allSucceeded_nil History.without_nil rfl
  | unzoned => exact .heard (heard_look rfl).1
  | provided zoned provides => exact ((provides.surfaces.locked _).map _).after (heard_look rfl).1 (heard_look rfl).2

theorem Sited.surfaces {f : Failure} (h : Sited plan (.error f) made) :
    Surfaces (.error f : Except Failure CreateVolumeResponse) made := by
  cases h with
  | offline => exact .heard (heard_look rfl).1
  | untold => exact surfaces_failed History.allSucceeded_nil History.without_nil rfl

theorem Sited.heard (h : Sited plan (.ok node) made) : made.AllSucceeded ∧ made.Without Call.changesDisks := by
  cases h with
  | named => exact ⟨History.allSucceeded_nil, History.without_nil⟩
  | online => exact heard_look rfl

theorem Creation.surfaces {κ : Type} {fleet : Fleet κ} {request : CreateVolumeRequest}
    {outcome : Except Failure CreateVolumeResponse} (h : Creation fleet request outcome made) :
    Surfaces outcome made := by
  cases h with
  | refused => exact .heard History.allSucceeded_nil
  | unsited _ sited => exact sited.surfaces
  | sited _ sited makes => exact makes.surfaces.after sited.heard.1 sited.heard.2

end

/-! ## The whole creation -/

/-- A request to a cluster failed, and with it a creation: before it all went well and nothing was changed, after it
nothing more was asked, and its failure is reported. The caller is blamed with the text of the failure unless the
request was the one for the members and its failure blames someone else. -/
structure EndsWith (region : String) (r : Hypervisor.Request) (f : Failure)
    (outcome : Except Failure CreateVolumeResponse) (made later earlier : History) : Prop where
  split : made = later ++ Exchange.cluster region r (.error f) :: earlier
  last : later.asked = []
  heard : earlier.AllSucceeded
  unchanged : earlier.Without Call.changesDisks
  reported : outcome = .error (reportedAs r f)
  blames_iff : Blames f outcome ↔ r ≠ .members ∨ f.status = .invalidArgument

/-- Only one request fails, and the whole ends with it. -/
theorem Surfaces.endsWith {outcome : Except Failure CreateVolumeResponse} {made : History} {region : String}
    {r : Hypervisor.Request} {f : Failure} (h : Surfaces outcome made)
    (failed : Exchange.cluster region r (.error f) ∈ made) :
    ∃ later earlier, EndsWith region r f outcome made later earlier := by
  have unheard {past : History} (all : past.AllSucceeded) : Exchange.cluster region r (.error f) ∉ past := by
    intro mem
    cases all _ mem
  cases h with
  | heard all => exact absurd failed (unheard all)
  | @failed region' r' f' later earlier split last before still reported =>
    have mem := failed
    rw [split] at mem
    rcases List.mem_append.mp mem with mem | mem
    · have asked : Exchange.cluster region r (.error f) ∈ later.asked := History.mem_asked.mpr ⟨mem, rfl⟩
      rw [last] at asked
      cases asked
    rcases List.mem_cons.mp mem with e | mem
    · cases e
      exact ⟨later, earlier, split, last, before, still, reported, reported ▸ blames_reportedAs_iff⟩
    · exact absurd mem (unheard before)

/-- If the request that failed left the disks, the whole creation did. -/
theorem EndsWith.sameDisks {region : String} {r : Hypervisor.Request} {f : Failure}
    {outcome : Except Failure CreateVolumeResponse} {made later earlier : History} {s t : Site}
    (h : EndsWith region r f outcome made later earlier)
    (replays : Program.Replays (I := collaborators) Site.answer s made t) :
    ∃ u, Program.Replays (I := collaborators) Site.answer s earlier u ∧
      (Site.answer (.cluster region r) u).1 = .error f ∧
        (Site.SameDisks u (Site.answer (.cluster region r) u).2 → Site.SameDisks s t) := by
  rw [h.split] at replays
  obtain ⟨w, before, after⟩ := replays.parts
  obtain ⟨u, first, answered⟩ := before.latest
  refine ⟨u, first, congrArg Prod.fst answered, fun left => ?_⟩
  rw [answered] at left
  have released := Site.sameDisks_of_replays after (History.without_changesDisks_of_locks h.last)
  exact ((Site.sameDisks_of_replays first h.unchanged).trans left).trans released

/-- **Failures of clusters.** A creation asks nothing but the four things of the cluster of its plan. If one of these
requests fails, whatever it fails with, it is the last one, and the failure is told as a fault of the caller's request
with its text, unless the cluster failed to tell its members: what it fails with then is told as it is, and blames the
caller only if it did so already. At a site the disks are as they were if the request that failed left them. -/
theorem createVolume_failures {κ : Type} (fleet : Fleet κ) (request : CreateVolumeRequest) :
    (∀ outcome made, (createVolume fleet request).RunsTo anyAnswers [] outcome made →
      (∀ e ∈ made, ∃ plan, planOf fleet request = .ok plan ∧ Wanted plan e.request) ∧
        ∀ region r f, Exchange.cluster region r (.error f) ∈ made →
          ∃ later earlier, EndsWith region r f outcome made later earlier) ∧
      ∀ s region r f, Exchange.cluster region r (.error f) ∈ Site.exchanges (createVolume fleet request) s →
        ∃ later earlier u,
          EndsWith region r f (Site.run (createVolume fleet request) s).1
            (Site.exchanges (createVolume fleet request) s) later earlier ∧
          Program.Replays (I := collaborators) Site.answer s earlier u ∧
          (Site.answer (.cluster region r) u).1 = .error f ∧
          (Site.SameDisks u (Site.answer (.cluster region r) u).2 →
            Site.SameDisks s (Site.run (createVolume fleet request) s).2) := by
  have ends : (createVolume fleet request).Takes fun outcome made => ∀ region r f,
      Exchange.cluster region r (.error f) ∈ made → ∃ later earlier, EndsWith region r f outcome made later earlier :=
    (createVolume_takes fleet request).mono fun outcome made h region r f failed => h.surfaces.endsWith failed
  refine ⟨fun outcome made run => ⟨(createVolume_asks fleet request).takes _ _ run, ends _ _ run⟩, ?_⟩
  intro s region r f failed
  obtain ⟨later, earlier, ended⟩ := ends _ _ (Site.runsTo_exchanges _ s) region r f failed
  obtain ⟨u, replays, answered, left⟩ := ended.sameDisks (Site.replays_exchanges _ s)
  exact ⟨later, earlier, u, ended, replays, answered, left⟩

/-! ### A cluster without a quorum -/

namespace Quorumless

/-- What a cluster fails with that has no quorum. -/
def failure : Failure :=
  .clusterApi "r1" (some 500) "500 Internal Server Error: no quorum"

/-- The cluster fails when it is to make a disk. -/
def unmade : Site :=
  { Uneven.site with faults := [{ concerns := fun call => call.changesDisks, failure := failure }] }

/-- The disk that it is to make. -/
def disk : Hypervisor.DiskRequest :=
  ⟨9999, "vm-9999-pvc-1", 10737418240, none⟩

set_option maxRecDepth 8000 in
theorem unmade_fails : Exchange.cluster "r1" (.createDisk "z2" "data" disk) (.error failure) ∈
    Site.exchanges (createVolume Uneven.fleet Uneven.request) unmade := by
  have last : (Site.exchanges (createVolume Uneven.fleet Uneven.request) unmade)[1]? =
      some (Exchange.cluster "r1" (.createDisk "z2" "data" disk) (.error failure)) := by rfl
  exact List.mem_of_getElem? last

/-- The cluster fails when it is to tell its members. -/
def unled : Site :=
  { Uneven.site with
    faults := [{ concerns := fun call => match call with
                   | .cluster _ .members => true
                   | _ => false
                 failure := failure }] }

/-- A volume on any node of the region. -/
def anywhere : CreateVolumeRequest :=
  { Uneven.request with
    accessibilityRequirements := some { preferred := [⟨(∅ : StringMap).insert Label.region "r1"⟩] } }

end Quorumless

/-- A cluster fails to make a disk: the caller is blamed with the text of the failure, and the disks are as they
were. -/
theorem createVolume_failures_unmade :
    Blames Quorumless.failure (Site.run (createVolume Uneven.fleet Uneven.request) Quorumless.unmade).1 ∧
      Site.SameDisks Quorumless.unmade (Site.run (createVolume Uneven.fleet Uneven.request) Quorumless.unmade).2 := by
  obtain ⟨-, atSite⟩ := createVolume_failures Uneven.fleet Uneven.request
  obtain ⟨later, earlier, u, ended, replays, answered, left⟩ := atSite _ _ _ _ Quorumless.unmade_fails
  refine ⟨ended.blames_iff.mpr (.inl fun e => by cases e), left ?_⟩
  -- the fault strikes first, so the call that failed had no effect
  have first : Quorumless.unmade.Prompt := by simp [Site.Prompt, Quorumless.unmade]
  have looks : ∀ region r x, Exchange.cluster region r x ∈ earlier → r.mutates = true → ∃ f, x = .error f :=
    fun region r x mem mutates => absurd mutates (Bool.eq_false_iff.mp (ended.unchanged _ mem))
  have prompt : u.Prompt := (Site.disks_of_failed first replays looks).1
  refine (Site.disks_of_failed prompt (.cons _ .nil) ?_).2
  rintro region r x mem -
  cases List.mem_singleton.mp mem
  exact ⟨_, answered⟩

set_option maxRecDepth 4000 in
/-- A request for a volume is sound, its cluster fails to tell its members, and the caller is not blamed. -/
theorem createVolume_blames_cluster : (planOf Uneven.fleet Quorumless.anywhere).isOk = true ∧
    Exchange.cluster "r1" .members (.error Quorumless.failure) ∈
      Site.exchanges (createVolume Uneven.fleet Quorumless.anywhere) Quorumless.unled ∧
    ¬Blames Quorumless.failure (Site.run (createVolume Uneven.fleet Quorumless.anywhere) Quorumless.unled).1 := by
  have last : (Site.exchanges (createVolume Uneven.fleet Quorumless.anywhere) Quorumless.unled)[0]? =
      some (Exchange.cluster "r1" .members (.error Quorumless.failure)) := by rfl
  have told : (match (Site.run (createVolume Uneven.fleet Quorumless.anywhere) Quorumless.unled).1 with
    | .error g => g.status
    | .ok _ => .invalidArgument) = .internal := by decide +kernel
  refine ⟨by decide +kernel, List.mem_of_getElem? last, ?_⟩
  rintro ⟨g, ended, blames, -⟩
  rw [ended] at told
  exact absurd (blames.symm.trans told) (by decide)

end Provisioning

end ClusterVolumes
