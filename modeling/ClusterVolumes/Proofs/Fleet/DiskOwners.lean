import ClusterVolumes.Proofs.Courses
import ClusterVolumes.Proofs.Maintenance.Footprints
import ClusterVolumes.Proofs.Maintenance.MoveSteps
import ClusterVolumes.Proofs.Site.Faultless
import Mathlib.Tactic.Common

/-!
# The machine that has a disk

A disk in use is named in the configuration of the machine that has it. `Site.ClusterState.Owns` says of a machine of a
cluster that it has the disk of a volume, without the function that looks for it, and `Site.ClusterState.Reaches` which
machines must be looked at to find the first such machine.

`Fleet.Search` holds the runs of the look-up along a list of machines, whatever is answered. Where the answers are those
of a cluster, its outcome is the first owner in the order of the list (`Search.finds`), and what is read is what must be
(`Search.needs`, `Search.reads`). The main result is `findDiskOwner_exact`.
-/

namespace ClusterVolumes

open Service
open Hypervisor (ClusterResource)

/-! ## Owners -/

instance (r : ClusterResource) (volume : VolumeHandle) (vmid : UInt32) : Decidable (r.MayOwn volume vmid) :=
  inferInstanceAs (Decidable (_ ∧ _ ∧ _ ∧ (_ ∨ _)))

/-- What stands before the first comma of some value of a configuration is the storage and the disk of a volume. -/
def Machine.Names (config : StringMap) (volume : VolumeHandle) : Prop :=
  ∃ value ∈ config.values, value.toList.takeWhile (· ≠ ',') = (volume.storage ++ ":" ++ volume.disk).toList

theorem Machine.hasDisk_iff {config : StringMap} {volume : VolumeHandle} :
    hasDisk config volume.volid = true ↔ Names config volume :=
  List.any_eq_true.trans (exists_congr fun _ => and_congr_right fun _ => decide_eq_true_iff)

namespace Site.ClusterState

variable (c : ClusterState) (volume : VolumeHandle)

/-- The machine may have the disk of a volume, and its configuration names the disk. -/
def Owns (r : ClusterResource) (vmid : UInt32) : Prop :=
  r.MayOwn volume vmid ∧ ∃ config, c.configs (r.node, vmid) = some config ∧ Machine.Names config volume

/-- The machine is listed, and no machine before it has the disk of a volume. -/
def Reaches (machines : List ClusterResource) (r : ClusterResource) : Prop :=
  ∃ before after, machines = before ++ r :: after ∧ ∀ q ∈ before, ∀ n, ¬c.Owns volume q n

variable {c volume}

theorem reaches_cons {a r : ClusterResource} {rest : List ClusterResource} :
    c.Reaches volume (a :: rest) r ↔ r = a ∨ (∀ n, ¬c.Owns volume a n) ∧ c.Reaches volume rest r := by
  constructor
  · rintro ⟨before, after, split, none⟩
    cases before with
    | nil => exact .inl (List.cons.inj split).1.symm
    | cons q before =>
      obtain ⟨rfl, rest⟩ := List.cons.inj split
      obtain ⟨first, others⟩ := List.forall_mem_cons.mp none
      exact .inr ⟨first, before, after, rest, others⟩
  · rintro (rfl | ⟨first, before, after, rfl, others⟩)
    · exact ⟨[], rest, rfl, by simp⟩
    · exact ⟨a :: before, after, rfl, List.forall_mem_cons.mpr ⟨first, others⟩⟩

theorem not_reaches_nil {r : ClusterResource} : ¬c.Reaches volume [] r := by
  rintro ⟨before, after, split, -⟩
  simp at split

/-- A machine whose configuration does not name the disk does not have it. -/
theorem not_owns {r : ClusterResource} {vmid : UInt32} {config : StringMap} (may : r.MayOwn volume vmid)
    (told : c.configs (r.node, vmid) = some config) (unnamed : ¬Machine.Names config volume) (n : UInt32) :
    ¬c.Owns volume r n := by
  rintro ⟨may', config', told', named⟩
  obtain rfl : n = vmid := Option.some.inj (may'.2.1.symm.trans may.2.1)
  obtain rfl : config' = config := Option.some.inj (told'.symm.trans told)
  exact unnamed named

end Site.ClusterState

/-! ## Searches -/

namespace Fleet

open Site.ClusterState (reaches_cons not_reaches_nil not_owns)

section

variable {volume : VolumeHandle}

/-- The runs of the search for an owner among machines, with what they come to. -/
inductive Search (volume : VolumeHandle) :
    List ClusterResource → Except Failure (Option Machine) → History → Prop
  | exhausted : Search volume [] (.ok none) []
  | excluded {r : ClusterResource} {rest : List ClusterResource} {outcome : Except Failure (Option Machine)}
      {made : History} : (∀ vmid, ¬r.MayOwn volume vmid) → Search volume rest outcome made →
      Search volume (r :: rest) outcome made
  | passed {r : ClusterResource} {vmid : UInt32} {config : StringMap} {rest : List ClusterResource}
      {outcome : Except Failure (Option Machine)} {made : History} : r.MayOwn volume vmid →
      ¬Machine.Names config volume → Search volume rest outcome made →
      Search volume (r :: rest) outcome
        (made ++ [Exchange.cluster volume.region (.vmConfig r.node vmid) (.ok config)])
  | found {r : ClusterResource} {vmid : UInt32} {config : StringMap} (rest : List ClusterResource) :
      r.MayOwn volume vmid → Machine.Names config volume →
      Search volume (r :: rest) (.ok (some (r.machine volume vmid)))
        [Exchange.cluster volume.region (.vmConfig r.node vmid) (.ok config)]
  | failed {r : ClusterResource} {vmid : UInt32} (rest : List ClusterResource) (f : Failure) :
      r.MayOwn volume vmid →
      Search volume (r :: rest) (.error f) [Exchange.cluster volume.region (.vmConfig r.node vmid) (.error f)]

/-- What is searched for is found in one of these ways. -/
theorem runsTo_findOwnerAmong {machines : List ClusterResource} {outcome : Except Failure (Option Machine)} :
    ∀ {made : History}, (findOwnerAmong volume machines).RunsTo anyAnswers [] outcome made ↔
      Search volume machines outcome made := by
  induction machines with
  | nil =>
    intro made
    constructor
    · intro run
      obtain ⟨rfl, rfl⟩ := runsTo_pure.mp run
      exact .exhausted
    · intro search
      cases search
      exact runsTo_pure.mpr ⟨rfl, rfl⟩
  | cons r rest ih =>
    intro made
    by_cases may : ∃ vmid, r.MayOwn volume vmid
    · obtain ⟨vmid, may⟩ := may
      have only {n : UInt32} (h : r.MayOwn volume n) : n = vmid := Option.some.inj (h.2.1.symm.trans may.2.1)
      rw [findOwnerAmong_mayOwn may]
      refine runsTo_cluster_bind.trans ?_
      constructor
      · rintro (⟨config, run⟩ | ⟨f, rfl, rfl⟩)
        · split at run
          · rename_i named
            obtain ⟨rfl, rfl⟩ := runsTo_pure.mp run
            exact .found rest may (Machine.hasDisk_iff.mp named)
          · rename_i unnamed
            obtain ⟨made, alone, rfl⟩ := runsTo_later.mp run
            exact .passed may (mt Machine.hasDisk_iff.mpr unnamed) (ih.mp alone)
        · exact .failed rest f may
      · intro search
        cases search with
        | excluded none => exact absurd may (none vmid)
        | @passed _ n config _ _ made h unnamed search =>
          obtain rfl := only h
          refine .inl ⟨config, ?_⟩
          rw [if_neg (mt Machine.hasDisk_iff.mp unnamed)]
          exact runsTo_later.mpr ⟨made, ih.mpr search, rfl⟩
        | @found _ n config _ h named =>
          obtain rfl := only h
          refine .inl ⟨config, ?_⟩
          rw [if_pos (Machine.hasDisk_iff.mpr named)]
          exact runsTo_pure.mpr ⟨rfl, rfl⟩
        | failed _ f h =>
          obtain rfl := only h
          exact .inr ⟨f, rfl, rfl⟩
    · have none : ∀ vmid, ¬r.MayOwn volume vmid := not_exists.mp may
      rw [findOwnerAmong_excluded none, ih]
      constructor
      · exact .excluded none
      · intro search
        cases search with
        | excluded _ search => exact search
        | passed h => exact absurd h (none _)
        | found _ h => exact absurd h (none _)
        | failed _ f h => exact absurd h (none _)

/-- A read that fails is the last call of a search, and its failure the outcome. -/
theorem Search.failed_last {machines : List ClusterResource} {outcome : Except Failure (Option Machine)}
    {made : History} (search : Search volume machines outcome made) {region : String} {r : Hypervisor.Request}
    {f : Failure} (mem : Exchange.cluster region r (.error f) ∈ made) :
    outcome = .error f ∧ ∃ earlier, made = Exchange.cluster region r (.error f) :: earlier := by
  induction search with
  | exhausted => cases mem
  | excluded _ _ ih => exact ih mem
  | passed _ _ _ ih =>
    rcases List.mem_append.mp mem with mem | mem
    · obtain ⟨rfl, earlier, rfl⟩ := ih mem
      exact ⟨rfl, _, List.cons_append⟩
    · cases List.mem_singleton.mp mem
  | found => cases List.mem_singleton.mp mem
  | failed _ f' =>
    cases List.mem_singleton.mp mem
    exact ⟨rfl, [], rfl⟩

/-- A search that fails has a read that failed. -/
theorem Search.fails {machines : List ClusterResource} {outcome : Except Failure (Option Machine)} {made : History}
    (search : Search volume machines outcome made) {f : Failure} (h : outcome = .error f) :
    ∃ node vmid, Exchange.cluster volume.region (.vmConfig node vmid) (.error f) ∈ made := by
  induction search with
  | exhausted => cases h
  | excluded _ _ ih => exact ih h
  | passed _ _ _ ih =>
    obtain ⟨node, vmid, mem⟩ := ih h
    exact ⟨node, vmid, List.mem_append_left _ mem⟩
  | found => cases h
  | failed _ f' =>
    cases h
    exact ⟨_, _, List.mem_singleton_self _⟩

section

variable {c : Site.ClusterState} {machines : List ClusterResource} {outcome : Except Failure (Option Machine)}
  {made : History}

/-- The configurations that were told are those of the machines. -/
def Told (c : Site.ClusterState) (region : String) (made : History) : Prop :=
  ∀ node vmid config, Exchange.cluster region (.vmConfig node vmid) (.ok config) ∈ made →
    c.configs (node, vmid) = some config

/-- A search reads no configuration but those of machines that may have the disk and are reached, -/
theorem Search.needs (search : Search volume machines outcome made) (told : Told c volume.region made) {node : String}
    {vmid : UInt32} {x : Except Failure StringMap}
    (mem : Exchange.cluster volume.region (.vmConfig node vmid) x ∈ made) :
    ∃ r, c.Reaches volume machines r ∧ r.node = node ∧ r.MayOwn volume vmid := by
  induction search with
  | exhausted => cases mem
  | excluded none _ ih =>
    obtain ⟨q, reached, here, may⟩ := ih told mem
    exact ⟨q, reaches_cons.mpr (.inr ⟨fun n owns => none n owns.1, reached⟩), here, may⟩
  | @passed r n config rest _ made may unnamed _ ih =>
    have read := told r.node n config (by simp)
    rcases List.mem_append.mp mem with mem | mem
    · obtain ⟨q, reached, here, may'⟩ := ih (fun node vmid config mem => told _ _ _ (List.mem_append_left _ mem)) mem
      exact ⟨q, reaches_cons.mpr (.inr ⟨not_owns may read unnamed, reached⟩), here, may'⟩
    · cases List.mem_singleton.mp mem
      exact ⟨r, reaches_cons.mpr (.inl rfl), rfl, may⟩
  | @found r n config rest may _ =>
    cases List.mem_singleton.mp mem
    exact ⟨r, reaches_cons.mpr (.inl rfl), rfl, may⟩
  | @failed r n rest f may =>
    cases List.mem_singleton.mp mem
    exact ⟨r, reaches_cons.mpr (.inl rfl), rfl, may⟩

/-- and one that ends without a failure reads all of them. -/
theorem Search.reads (search : Search volume machines outcome made) (told : Told c volume.region made)
    {o : Option Machine} (ended : outcome = .ok o) {r : ClusterResource} {vmid : UInt32}
    (reached : c.Reaches volume machines r) (may : r.MayOwn volume vmid) :
    ∃ x, Exchange.cluster volume.region (.vmConfig r.node vmid) x ∈ made := by
  induction search with
  | exhausted => exact absurd reached not_reaches_nil
  | excluded none _ ih =>
    rcases reaches_cons.mp reached with rfl | ⟨-, reached⟩
    · exact absurd may (none vmid)
    · exact ih told ended reached
  | @passed q n config rest _ made may' _ _ ih =>
    rcases reaches_cons.mp reached with rfl | ⟨-, reached⟩
    · obtain rfl : vmid = n := Option.some.inj (may.2.1.symm.trans may'.2.1)
      exact ⟨_, List.mem_append_right _ (List.mem_singleton_self _)⟩
    · obtain ⟨x, mem⟩ := ih (fun node vmid config mem => told _ _ _ (List.mem_append_left _ mem)) ended reached
      exact ⟨x, List.mem_append_left _ mem⟩
  | @found q n config rest may' named =>
    have read := told q.node n config (List.mem_singleton_self _)
    rcases reaches_cons.mp reached with rfl | ⟨unowned, -⟩
    · obtain rfl : vmid = n := Option.some.inj (may.2.1.symm.trans may'.2.1)
      exact ⟨_, List.mem_singleton_self _⟩
    · exact absurd ⟨may', config, read, named⟩ (unowned n)
  | failed => cases ended

/-- What is found is the first owner in the order of the list. -/
theorem Search.finds (search : Search volume machines outcome made) (told : Told c volume.region made)
    {o : Option Machine} (ended : outcome = .ok o) : (o = none ↔ ∀ r ∈ machines, ∀ vmid, ¬c.Owns volume r vmid) ∧
      ∀ machine, o = some machine ↔
        ∃ r vmid, c.Reaches volume machines r ∧ c.Owns volume r vmid ∧ machine = r.machine volume vmid := by
  -- a machine that has not got the disk makes no difference
  have skip {r : ClusterResource} {rest : List ClusterResource} (unowned : ∀ n, ¬c.Owns volume r n)
      (ih : (o = none ↔ ∀ r ∈ rest, ∀ vmid, ¬c.Owns volume r vmid) ∧ ∀ machine, o = some machine ↔
        ∃ r vmid, c.Reaches volume rest r ∧ c.Owns volume r vmid ∧ machine = r.machine volume vmid) :
      (o = none ↔ ∀ q ∈ r :: rest, ∀ vmid, ¬c.Owns volume q vmid) ∧ ∀ machine, o = some machine ↔
        ∃ q vmid, c.Reaches volume (r :: rest) q ∧ c.Owns volume q vmid ∧ machine = q.machine volume vmid := by
    refine ⟨ih.1.trans ⟨fun h => List.forall_mem_cons.mpr ⟨unowned, h⟩, fun h => (List.forall_mem_cons.mp h).2⟩,
      fun machine => (ih.2 machine).trans ⟨?_, ?_⟩⟩
    · rintro ⟨q, vmid, reached, owns, same⟩
      exact ⟨q, vmid, reaches_cons.mpr (.inr ⟨unowned, reached⟩), owns, same⟩
    · rintro ⟨q, vmid, reached, owns, same⟩
      rcases reaches_cons.mp reached with rfl | ⟨-, reached⟩
      · exact absurd owns (unowned vmid)
      · exact ⟨q, vmid, reached, owns, same⟩
  induction search with
  | exhausted =>
    cases ended
    simp [not_reaches_nil]
  | excluded none _ ih => exact skip (fun n owns => none n owns.1) (ih told ended)
  | @passed r n config rest _ made may unnamed _ ih =>
    have read := told r.node n config (by simp)
    exact skip (not_owns may read unnamed)
      (ih (fun node vmid config mem => told _ _ _ (List.mem_append_left _ mem)) ended)
  | @found r n config rest may named =>
    have owns : c.Owns volume r n := ⟨may, config, told r.node n config (List.mem_singleton_self _), named⟩
    cases ended
    refine ⟨iff_of_false nofun fun none => none r List.mem_cons_self n owns, fun machine => ⟨?_, ?_⟩⟩
    · rintro ⟨⟩
      exact ⟨r, n, reaches_cons.mpr (.inl rfl), owns, rfl⟩
    · rintro ⟨q, vmid, reached, owns', rfl⟩
      rcases reaches_cons.mp reached with rfl | ⟨unowned, -⟩
      · obtain rfl : vmid = n := Option.some.inj (owns'.1.2.1.symm.trans may.2.1)
        rfl
      · exact absurd owns (unowned n)
  | failed => cases ended

end

/-! ## The look-up -/

section

variable {κ : Type} {fleet : Fleet κ} {access : κ} {outcome : Except Failure (Option Machine)} {made : History}
  {s : Site} {c : Site.ClusterState}

/-- The machines of the region are listed, and then the owner is searched for among them. -/
theorem runsTo_findDiskOwner (configured : fleet.get volume.region = .ok access) :
    (fleet.findDiskOwner volume).RunsTo anyAnswers [] outcome made ↔
      (∃ machines reads, Search volume machines outcome reads ∧
        made = reads ++ [Exchange.cluster volume.region (.resources .vm) (.ok machines)]) ∨
      ∃ f, outcome = .error f ∧ made = [Exchange.cluster volume.region (.resources .vm) (.error f)] := by
  have listing : fleet.findDiskOwner volume =
      (Service.cluster volume.region (.resources .vm) >>= fun machines => findOwnerAmong volume machines) := by
    rw [findDiskOwner, configured]
    rfl
  rw [listing]
  refine runsTo_cluster_bind.trans (or_congr_left (exists_congr fun machines => ?_))
  rw [runsTo_later]
  simp only [runsTo_findOwnerAmong]

/-- Only looks are made. -/
theorem findDiskOwner_looks (fleet : Fleet κ) (volume : VolumeHandle) :
    (fleet.findDiskOwner volume).Asks Call.looks := by
  refine fleet.findDiskOwner_asks_of (fun _ => rfl) fun node vmid c => ?_
  simp only [Site.ClusterState.answer]
  split
  · rfl
  · rfl

/-- A cluster that tells a configuration has it. -/
theorem told_of_answers {region : String} {reads : History}
    (h : ∀ r a, Exchange.cluster region r (.ok a) ∈ reads → (c.answer region r).1 = .ok a) : Told c region reads := by
  intro node vmid config mem
  have answered := h _ _ mem
  simp only [Site.ClusterState.answer] at answered
  split at answered
  · rename_i there
    obtain rfl := Except.ok.inj answered
    exact there
  · cases answered

/-- A look-up at a site is a search among the machines of the cluster, unless they are not listed. -/
theorem search_of_run (configured : fleet.get volume.region = .ok access) (hc : s.clusters volume.region = some c) :
    (∃ reads, Search volume c.machines (Site.run (fleet.findDiskOwner volume) s).1 reads ∧ Told c volume.region reads ∧
      Site.exchanges (fleet.findDiskOwner volume) s =
        reads ++ [Exchange.cluster volume.region (.resources .vm) (.ok c.machines)]) ∨
    ∃ f, (Site.run (fleet.findDiskOwner volume) s).1 = .error f ∧ Site.exchanges (fleet.findDiskOwner volume) s =
      [Exchange.cluster volume.region (.resources .vm) (.error f)] := by
  have run := Site.runsTo_exchanges (fleet.findDiskOwner volume) s
  have looks := (findDiskOwner_looks fleet volume).takes _ _ run
  obtain ⟨-, told⟩ := Site.told_of_looks (Site.replays_exchanges _ s) looks hc
  rcases (runsTo_findDiskOwner configured).mp run with ⟨machines, reads, search, made⟩ | failed
  · rw [made] at told
    obtain rfl : c.machines = machines := Except.ok.inj (told (.resources .vm) machines (by simp))
    exact .inl ⟨reads, search, told_of_answers fun r a mem => told r a (List.mem_append_left _ mem), made⟩
  · exact .inr failed

/-- Only configurations are read in a search. -/
theorem vmConfig_mem_append {reads : History} {machines : List ClusterResource} {node : String} {vmid : UInt32}
    {x : Except Failure StringMap} : Exchange.cluster volume.region (.vmConfig node vmid) x ∈
      reads ++ [Exchange.cluster volume.region (.resources .vm) (.ok machines)] ↔
      Exchange.cluster volume.region (.vmConfig node vmid) x ∈ reads := by
  constructor
  · intro mem
    rcases List.mem_append.mp mem with mem | mem
    · exact mem
    · cases List.mem_singleton.mp mem
  · exact fun mem => List.mem_append_left _ mem

/-- How a look-up ends that has a failing call: with that call and its failure. -/
structure EndsWithFailure (volume : VolumeHandle) (outcome : Except Failure (Option Machine)) (made : History) :
    Prop where
  failed_last : ∀ r f, Exchange.cluster volume.region r (.error f) ∈ made →
    outcome = .error f ∧ ∃ earlier, made = Exchange.cluster volume.region r (.error f) :: earlier
  fails : ∀ f, outcome = .error f → ∃ r, Exchange.cluster volume.region r (.error f) ∈ made

/-- What a look-up that succeeds finds in a cluster, and what it reads.
- `none_iff`: nothing, exactly if no machine has the disk;
- `some_iff`: the first machine that has it, otherwise;
- `reads`: the configurations of all machines that may have the disk and are reached. -/
structure FindsOwner (volume : VolumeHandle) (c : Site.ClusterState) (o : Option Machine) (made : History) : Prop where
  none_iff : o = none ↔ ∀ r ∈ c.machines, ∀ vmid, ¬c.Owns volume r vmid
  some_iff : ∀ machine, o = some machine ↔
    ∃ r vmid, c.Reaches volume c.machines r ∧ c.Owns volume r vmid ∧ machine = r.machine volume vmid
  reads : ∀ r vmid, c.Reaches volume c.machines r → r.MayOwn volume vmid →
    ∃ x, Exchange.cluster volume.region (.vmConfig r.node vmid) x ∈ made

theorem endsWithFailure_of_run (configured : fleet.get volume.region = .ok access)
    (run : (fleet.findDiskOwner volume).RunsTo anyAnswers [] outcome made) : EndsWithFailure volume outcome made := by
  rcases (runsTo_findDiskOwner configured).mp run with ⟨machines, reads, search, rfl⟩ | ⟨f, rfl, rfl⟩
  · constructor
    · intro r f mem
      rcases List.mem_append.mp mem with mem | mem
      · obtain ⟨ended, earlier, rfl⟩ := search.failed_last mem
        exact ⟨ended, _, List.cons_append⟩
      · cases List.mem_singleton.mp mem
    · intro f ended
      obtain ⟨node, vmid, mem⟩ := search.fails ended
      exact ⟨_, List.mem_append_left _ mem⟩
  · constructor
    · intro r f mem
      cases List.mem_singleton.mp mem
      exact ⟨rfl, [], rfl⟩
    · intro f ended
      cases ended
      exact ⟨_, List.mem_singleton_self _⟩

/-- Whatever comes of a look-up at a site, it reads only what must be read, -/
theorem needs_of_run (configured : fleet.get volume.region = .ok access) (hc : s.clusters volume.region = some c)
    {node : String} {vmid : UInt32} {x : Except Failure StringMap}
    (mem : Exchange.cluster volume.region (.vmConfig node vmid) x ∈ Site.exchanges (fleet.findDiskOwner volume) s) :
    ∃ r, c.Reaches volume c.machines r ∧ r.node = node ∧ r.MayOwn volume vmid := by
  rcases search_of_run configured hc with ⟨reads, search, told, made⟩ | ⟨f, -, made⟩
  · rw [made] at mem
    exact search.needs told (vmConfig_mem_append.mp mem)
  · rw [made] at mem
    cases List.mem_singleton.mp mem

/-- and if it succeeds, it finds the first owner and has read all of that. -/
theorem findsOwner_of_run (configured : fleet.get volume.region = .ok access) (hc : s.clusters volume.region = some c)
    {o : Option Machine} (ended : (Site.run (fleet.findDiskOwner volume) s).1 = .ok o) :
    FindsOwner volume c o (Site.exchanges (fleet.findDiskOwner volume) s) := by
  rcases search_of_run configured hc with ⟨reads, search, told, made⟩ | ⟨f, failed, -⟩
  · obtain ⟨none, some⟩ := search.finds told ended
    refine ⟨none, some, fun r vmid reached may => ?_⟩
    obtain ⟨x, mem⟩ := search.reads told ended reached may
    rw [made]
    exact ⟨x, vmConfig_mem_append.mpr mem⟩
  · rw [ended] at failed
    cases failed

/-- It succeeds where no fault strikes and each machine that may have the disk has a configuration. -/
theorem ok_of_run (configured : fleet.get volume.region = .ok access) (hc : s.clusters volume.region = some c)
    (hf : s.faults = [])
    (there : ∀ r ∈ c.machines, ∀ vmid, r.MayOwn volume vmid → ∃ config, c.configs (r.node, vmid) = some config) :
    ∃ o, (Site.run (fleet.findDiskOwner volume) s).1 = .ok o := by
  have looks := (findDiskOwner_looks fleet volume).takes _ _ (Site.runsTo_exchanges _ s)
  obtain ⟨-, answered⟩ := Site.answered_of_looks hf (Site.replays_exchanges _ s) looks hc
  rcases search_of_run configured hc with ⟨reads, search, told, made⟩ | ⟨f, -, made⟩
  · cases ended : (Site.run (fleet.findDiskOwner volume) s).1 with
    | ok o => exact ⟨o, rfl⟩
    | error f =>
      -- the configuration whose read failed would be there
      obtain ⟨node, vmid, mem⟩ := search.fails ended
      obtain ⟨r, ⟨before, after, listed, -⟩, rfl, may⟩ := search.needs told mem
      obtain ⟨config, found⟩ := there r (by simp [listed]) vmid may
      have refused := answered (.vmConfig r.node vmid) _ (made ▸ List.mem_append_left _ mem)
      simp [Site.ClusterState.answer, found] at refused
  · have refused := answered (.resources .vm) _ (made ▸ List.mem_singleton_self _)
    cases refused

/-- **Owners of disks.** A look-up in a configured region fails exactly with the first call that fails, which is its
last one. At a site it reads no configuration but those of machines that may have the disk and are listed up to the
first owner, and what it finds is exactly that owner. Where no call fails it does not fail. -/
theorem findDiskOwner_exact (fleet : Fleet κ) (volume : VolumeHandle)
    (configured : fleet.get volume.region = .ok access) :
    (∀ outcome made, (fleet.findDiskOwner volume).RunsTo anyAnswers [] outcome made →
      EndsWithFailure volume outcome made) ∧
    ∀ (s : Site) (c : Site.ClusterState), s.clusters volume.region = some c →
      (∀ node vmid x, Exchange.cluster volume.region (.vmConfig node vmid) x ∈
          Site.exchanges (fleet.findDiskOwner volume) s →
        ∃ r, c.Reaches volume c.machines r ∧ r.node = node ∧ r.MayOwn volume vmid) ∧
      (∀ o, (Site.run (fleet.findDiskOwner volume) s).1 = .ok o →
        FindsOwner volume c o (Site.exchanges (fleet.findDiskOwner volume) s)) ∧
      (s.faults = [] →
        (∀ r ∈ c.machines, ∀ vmid, r.MayOwn volume vmid → ∃ config, c.configs (r.node, vmid) = some config) →
        ∃ o, (Site.run (fleet.findDiskOwner volume) s).1 = .ok o) := by
  refine ⟨fun outcome made run => endsWithFailure_of_run configured run, fun s c hc => ⟨?_, ?_, ?_⟩⟩
  · intro node vmid x mem
    exact needs_of_run configured hc mem
  · intro o ended
    exact findsOwner_of_run configured hc ended
  · intro hf there
    exact ok_of_run configured hc hf there

end

end

/-! ### Six machines -/

namespace SixMachines

def fleet : Fleet ClusterAccess :=
  ⟨(∅ : TextMap ClusterAccess).insert "r1" {}⟩

/-- A disk that lies on one node. -/
def volume : VolumeHandle :=
  ⟨"r1", "z1", "data", "vm-9999-pvc-1"⟩

/-- The configuration of a machine with one disk. -/
def attaching (disk : String) : StringMap :=
  (∅ : StringMap).insert "scsi1" (disk ++ ",size=10G")

/-- The driver's own machine and two others that cannot have the disk, one with a disk whose name goes on, one that has
the disk, and one that is listed after it. -/
def cluster : Site.ClusterState where
  machines :=
    [ { kind := "qemu", node := "z1", vmid := some 9999 },
      { kind := "lxc", node := "z1", vmid := some 100 },
      { kind := "qemu", node := "z2", vmid := some 101 },
      { kind := "qemu", node := "z1", vmid := some 102 },
      { kind := "qemu", node := "z1", vmid := some 103 },
      { kind := "qemu", node := "z1", vmid := some 104, name := some "last" } ]
  configs :=
    ((Keyed.empty.put ("z1", 102) (some (attaching "data:vm-9999-pvc-10"))).put
      ("z1", 103) (some (attaching "data:vm-9999-pvc-1"))).put ("z1", 104) (some (attaching "data:vm-9999-pvc-1"))

def site : Site where
  clusters := Keyed.empty.put "r1" (some cluster)

end SixMachines

set_option maxRecDepth 4000 in
/-- Of six machines the fifth one is found, and the fourth one is read before it. -/
theorem findDiskOwner_exact_fifth :
    FindsOwner SixMachines.volume SixMachines.cluster (some ⟨"r1", "z1", 103, ""⟩)
        (Site.exchanges (SixMachines.fleet.findDiskOwner SixMachines.volume) SixMachines.site) ∧
      (Site.exchanges (SixMachines.fleet.findDiskOwner SixMachines.volume) SixMachines.site).map (·.request) =
        [.cluster "r1" (.vmConfig "z1" 103), .cluster "r1" (.vmConfig "z1" 102), .cluster "r1" (.resources .vm)] := by
  have configured : SixMachines.fleet.get SixMachines.volume.region = .ok {} := rfl
  obtain ⟨-, atSite⟩ := findDiskOwner_exact SixMachines.fleet SixMachines.volume configured
  obtain ⟨-, finds, returns⟩ := atSite SixMachines.site SixMachines.cluster rfl
  have there : ∀ r ∈ SixMachines.cluster.machines, (r.vmid.all fun vmid =>
      !decide (r.MayOwn SixMachines.volume vmid) || (SixMachines.cluster.configs (r.node, vmid)).isSome) = true := by
    decide +kernel
  have configs : ∀ r ∈ SixMachines.cluster.machines, ∀ vmid, r.MayOwn SixMachines.volume vmid →
      ∃ config, SixMachines.cluster.configs (r.node, vmid) = some config := by
    intro r mem vmid may
    have told := there r mem
    rw [may.2.1] at told
    simpa [may, Option.isSome_iff_exists] using told
  obtain ⟨o, ended⟩ := returns rfl configs
  have found : (Site.run (SixMachines.fleet.findDiskOwner SixMachines.volume) SixMachines.site).1 =
      .ok (some ⟨"r1", "z1", 103, ""⟩) := by rfl
  obtain rfl := Except.ok.inj (found.symm.trans ended)
  exact ⟨finds _ ended, by rfl⟩

end Fleet

end ClusterVolumes
