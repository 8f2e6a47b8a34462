import ClusterVolumes.Proofs.Footprint

/-!
# The courses of a service

`Service.Takes` says how a service may go when its calls may get any answers: with what outcome it ends, and which
exchanges it makes until then. There is one rule for each way of building a service, and `Takes.bind` puts the
exchanges of a second part in front of those of the first one. `takes_runs` is the course of a part that is not looked
into, and `Asks.takes` that of a part of which it is known only what it asks.

`History.asked` leaves out the calls for locks, which no collaborator hears of.
-/

namespace ClusterVolumes

/-- Is the call for a lock? -/
def Call.locks : Call → Bool
  | .acquire _ | .release _ => true
  | _ => false

/-- A call for a lock changes nothing. -/
theorem Call.changes_of_locks {c : Call} (h : c.locks = true) : c.changes = false := by
  cases c <;> first | rfl | cases h

namespace History

variable {e : Program.Exchange collaborators} {past : History}

/-- The exchanges that are not for locks, the latest first. -/
def asked (past : History) : History :=
  past.filter fun e => !Call.locks e.request

@[simp] theorem asked_nil : asked [] = [] := rfl

@[simp] theorem asked_append (made past : History) : asked (made ++ past) = made.asked ++ past.asked :=
  List.filter_append ..

/-- A call for a lock is left out. -/
theorem asked_cons_lock (h : Call.locks e.request = true) : asked (e :: past) = asked past := by
  simp [asked, h]

/-- Any other call is kept. -/
theorem asked_cons (h : Call.locks e.request = false) : asked (e :: past) = e :: asked past := by
  simp [asked, h]

/-- What was done under a lock, with the two calls for the lock. -/
def locked (made : History) (key : String) : History :=
  ⟨.release key, ()⟩ :: (made ++ [⟨.acquire key, ()⟩])

@[simp] theorem asked_locked (made : History) (key : String) : (made.locked key).asked = made.asked := by
  rw [locked, asked_cons_lock rfl, asked_append, asked_cons_lock rfl, asked_nil, List.append_nil]

theorem mem_asked : e ∈ past.asked ↔ e ∈ past ∧ Call.locks e.request = false := by
  simp [asked]

/-- Calls for locks change no disks. -/
theorem without_changesDisks_of_locks (h : past.asked = []) : past.Without Call.changesDisks := by
  rintro ⟨call, x⟩ mem
  by_cases lock : call.locks = true
  · cases call <;> first | rfl | cases lock
  · have kept : ⟨call, x⟩ ∈ past.asked := mem_asked.mpr ⟨mem, by simpa using lock⟩
    rw [h] at kept
    cases kept

/-- The calls for a lock go to no cluster. -/
theorem cluster_mem_locked {made : History} {key region : String} {r : Hypervisor.Request}
    {x : Except Failure r.Answer} :
    Exchange.cluster region r x ∈ made.locked key ↔ Exchange.cluster region r x ∈ made := by
  unfold locked
  constructor
  · intro h
    rcases List.mem_cons.mp h with h | h
    · cases h
    rcases List.mem_append.mp h with h | h
    · exact h
    · cases List.mem_singleton.mp h
  · intro h
    exact List.mem_cons_of_mem _ (List.mem_append_left _ h)

theorem changing_append (made past : History) : changing (made ++ past) = made.changing ++ past.changing :=
  (congrArg (List.filter Call.changes) List.map_append).trans (List.filter_append ..)

@[simp] theorem changing_locked (made : History) (key : String) : (made.locked key).changing = made.changing := by
  have taken : changing [⟨.acquire key, ()⟩] = [] := rfl
  have freed : (made.locked key).changing = (made ++ [⟨.acquire key, ()⟩] : History).changing := rfl
  rw [freed, changing_append, taken, List.append_nil]

/-- What was asked of locks changed nothing. -/
@[simp] theorem changing_asked : ∀ past : History, past.asked.changing = past.changing
  | [] => rfl
  | e :: past => by
    by_cases lock : Call.locks e.request = true
    · have calm : ¬Call.changes e.request = true := Bool.eq_false_iff.mp (Call.changes_of_locks lock)
      rw [asked_cons_lock lock, changing_asked past, changing_cons]
      exact (if_neg calm).symm
    · rw [asked_cons (by simpa using lock), changing_cons, changing_cons, changing_asked past]

theorem mem_changing (mem : e ∈ past) (changes : Call.changes e.request = true) : e.request ∈ past.changing :=
  List.mem_filter.mpr ⟨List.mem_map_of_mem mem, changes⟩

end History

namespace Service

variable {α β : Type} {Q Q' : Except Failure α → History → Prop}

/-- Whatever it is answered, a service ends with some outcome after some exchanges, the latest first. -/
def Takes (service : Service α) (Q : Except Failure α → History → Prop) : Prop :=
  ∀ outcome made, service.RunsTo anyAnswers [] outcome made → Q outcome made

/-- A run after some exchanges is a run from the beginning, put in front of them. -/
theorem runsTo_later {service : Service α} {outcome : Except Failure α} {past now : History} :
    service.RunsTo anyAnswers past outcome now ↔
      ∃ made, service.RunsTo anyAnswers [] outcome made ∧ now = made ++ past := by
  constructor
  · intro run
    obtain ⟨made, rfl, again⟩ := Program.RunsTo.shift run
    have alone := again []
    rw [List.append_nil] at alone
    exact ⟨made, alone, rfl⟩
  · rintro ⟨made, run, rfl⟩
    obtain ⟨made', e, again⟩ := Program.RunsTo.shift run
    rw [List.append_nil] at e
    exact e ▸ again past

/-- A service takes the course of its runs. -/
theorem takes_runs {service : Service α} : service.Takes (service.RunsTo anyAnswers []) :=
  fun _ _ run => run

/-- A sequence that begins with a call of a cluster goes on with its answer, or fails as the call does. -/
theorem runsTo_cluster_bind {region : String} {r : Hypervisor.Request} {next : r.Answer → Service β}
    {outcome : Except Failure β} {past now : History} :
    (cluster region r >>= next).RunsTo anyAnswers past outcome now ↔
      (∃ a, (next a).RunsTo anyAnswers (Exchange.cluster region r (.ok a) :: past) outcome now) ∨
        ∃ f, outcome = .error f ∧ now = Exchange.cluster region r (.error f) :: past := by
  rw [runsTo_bind]
  constructor
  · rintro (⟨a, u, asked, rest⟩ | ⟨f, rfl, asked⟩)
    · obtain rfl := runsTo_cluster.mp asked
      exact .inl ⟨a, rest⟩
    · exact .inr ⟨f, rfl, runsTo_cluster.mp asked⟩
  · rintro (⟨a, rest⟩ | ⟨f, rfl, rfl⟩)
    · exact .inl ⟨a, _, runsTo_cluster.mpr rfl, rest⟩
    · exact .inr ⟨f, rfl, runsTo_cluster.mpr rfl⟩

/-- The same for a call of the orchestrator. -/
theorem runsTo_orchestrator_bind {r : Orchestrator.Request} {next : r.Answer → Service β}
    {outcome : Except Failure β} {past now : History} :
    (orchestrator r >>= next).RunsTo anyAnswers past outcome now ↔
      (∃ a, (next a).RunsTo anyAnswers (Exchange.orchestrator r (.ok a) :: past) outcome now) ∨
        ∃ f, outcome = .error f ∧ now = Exchange.orchestrator r (.error f) :: past := by
  rw [runsTo_bind]
  constructor
  · rintro (⟨a, u, asked, rest⟩ | ⟨f, rfl, asked⟩)
    · obtain rfl := runsTo_orchestrator.mp asked
      exact .inl ⟨a, rest⟩
    · exact .inr ⟨f, rfl, runsTo_orchestrator.mp asked⟩
  · rintro (⟨a, rest⟩ | ⟨f, rfl, rfl⟩)
    · exact .inl ⟨a, _, runsTo_orchestrator.mpr rfl, rest⟩
    · exact .inr ⟨f, rfl, runsTo_orchestrator.mpr rfl⟩

theorem Takes.mono {service : Service α} (h : service.Takes Q) (hQ : ∀ outcome made, Q outcome made → Q' outcome made) :
    service.Takes Q' :=
  fun outcome made run => hQ outcome made (h outcome made run)

/-- A service that makes calls of a kind only makes no others. -/
theorem Asks.takes {service : Service α} {kind : Call → Prop} (h : service.Asks kind) :
    service.Takes fun _ made => ∀ e ∈ made, kind e.request := by
  have none : ∀ e ∈ ([] : History), kind e.request := fun _ mem => by cases mem
  have kept := h.keeps (K := fun past => ∀ e ∈ past, kind e.request)
    (fun past e he hs => List.forall_mem_cons.mpr ⟨he, hs⟩) none
  rintro (f | a) made run
  · exact kept.runsTo_error run
  · exact kept.runsTo_ok run

theorem takes_pure {a : α} (h : Q (.ok a) []) : Takes (pure a) Q := by
  intro outcome made run
  obtain ⟨rfl, rfl⟩ := runsTo_pure.mp run
  exact h

theorem takes_throw {f : Failure} (h : Q (.error f) []) : Takes (throw f) Q := by
  intro outcome made run
  obtain ⟨rfl, rfl⟩ := runsTo_throw.mp run
  exact h

theorem takes_ofExcept {e : Except Failure α} (h : Q e []) : Takes (ofExcept e) Q := by
  intro outcome made run
  obtain ⟨rfl, rfl⟩ := runsTo_ofExcept.mp run
  exact h

theorem takes_require {o : Option α} {f : Failure} (found : ∀ a, o = some a → Q (.ok a) [])
    (missing : o = none → Q (.error f) []) : Takes (require o f) Q := by
  cases o with
  | none => exact takes_throw (missing rfl)
  | some a => exact takes_pure (found a rfl)

theorem takes_cluster {region : String} {r : Hypervisor.Request} {Q : Except Failure r.Answer → History → Prop}
    (h : ∀ x, Q x [Exchange.cluster region r x]) : Takes (cluster region r) Q := by
  intro outcome made run
  obtain rfl := runsTo_cluster.mp run
  exact h outcome

theorem takes_mounts {r : Mount.Request} {Q : Except Failure r.Answer → History → Prop}
    (h : ∀ x, Q x [⟨.mounts r, x⟩]) : Takes (mounts r) Q := by
  intro outcome made run
  obtain rfl := runsTo_mounts.mp run
  exact h outcome

theorem takes_makeFolders {path : String} {Q : Except Failure (Except SystemFailure Unit) → History → Prop}
    (h : ∀ x, Q (.ok x) [⟨.makeFolders path, x⟩]) : Takes (makeFolders path) Q := by
  intro outcome made run
  obtain ⟨x, rfl, rfl⟩ := runsTo_makeFolders.mp run
  exact h x

theorem takes_writeFile {path text : String} {Q : Except Failure (Except SystemFailure Unit) → History → Prop}
    (h : ∀ x, Q (.ok x) [⟨.writeFile path text, x⟩]) : Takes (writeFile path text) Q := by
  intro outcome made run
  obtain ⟨x, rfl, rfl⟩ := runsTo_writeFile.mp run
  exact h x

/-- The exchanges of what comes next stand in front of those of what came first. -/
theorem Takes.bind {service : Service α} {next : α → Service β} {R : Except Failure β → History → Prop}
    (h : service.Takes Q) (hok : ∀ a made, Q (.ok a) made → (next a).Takes fun outcome more => R outcome (more ++ made))
    (hbad : ∀ f made, Q (.error f) made → R (.error f) made) : Takes (service >>= next) R := by
  intro outcome made run
  rcases runsTo_bind.mp run with ⟨a, u, first, rest⟩ | ⟨f, rfl, first⟩
  · obtain ⟨more, rfl, again⟩ := Program.RunsTo.shift rest
    have more_run := again []
    rw [List.append_nil] at more_run
    exact hok a u (h _ _ first) outcome more more_run
  · exact hbad f made (h _ _ first)

theorem Takes.attempt {service : Service α} {Q : Except Failure (Except Failure α) → History → Prop}
    (h : service.Takes fun outcome => Q (.ok outcome)) : service.attempt.Takes Q := by
  intro outcome made run
  obtain ⟨o, rfl, first⟩ := runsTo_attempt.mp run
  exact h o made first

theorem Takes.rewording {service : Service α} {words : Failure → Failure}
    (h : service.Takes fun outcome => Q (outcome.mapError words)) : (service.rewording words).Takes Q := by
  intro outcome made run
  obtain ⟨o, rfl, first⟩ := runsTo_rewording.mp run
  exact h o made first

/-- What is done under a lock stands between the two calls for the lock. -/
theorem Takes.holding {key : String} {service : Service α}
    (h : service.Takes fun outcome made => Q outcome (made.locked key)) : (Service.holding key service).Takes Q := by
  intro outcome made run
  obtain ⟨x, u, v, y, rfl, first, rfl⟩ := runsTo_holding.mp run
  obtain ⟨within, rfl, again⟩ := Program.RunsTo.shift first
  have alone := again []
  rw [List.append_nil] at alone
  exact h outcome within alone

end Service

end ClusterVolumes
