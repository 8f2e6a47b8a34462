import ClusterVolumes.Fleet.Machine
import ClusterVolumes.Proofs.Courses
import ClusterVolumes.Proofs.Fleet.Configured
import ClusterVolumes.Proofs.Site.Answers
import Mathlib.Tactic.Common

/-!
# The search for a machine

A node of the orchestrator is looked for in one region after another. `Fleet.Among` says what comes of the machines that
a region lists, `Fleet.LookUp` of a whole region, and `Fleet.Sought` of all regions, in terms of what a machine is
(`ClusterResource.MayBe`, `Machine.TellsUuid`) and without the functions that search.

`Sought` leaves open which failures of a region are passed over. The search passes over none (`Finds`), although a
region in which something is not found has no match (`FindsAnywhere`). The main result, `findMachine_exact`, says which
runs are the same either way: those in which nothing fails to be found but in the last region.
-/

namespace ClusterVolumes

open Service
open Hypervisor (ClusterResource)

/-! ## Machines that are looked for -/

namespace Machine

/-- A node is named like its machine, or with a domain behind it. -/
def Named (node machine : String) : Prop :=
  node = machine ∨ ∃ domain, node = machine ++ "." ++ domain

theorem isNamed_iff {node machine : String} : isNamed node machine = true ↔ Named node machine := by
  simp only [isNamed, Named, Bool.or_eq_true, decide_eq_true_eq]
  refine or_congr_right ?_
  constructor
  · intro cut
    split at cut
    · rename_i rest start
      refine ⟨String.ofList rest, String.toList_injective ?_⟩
      simp [Text.dropStart?_eq_some_iff.mp start]
    · cases cut
  · intro longer
    obtain ⟨domain, rfl⟩ := longer
    have start : Text.dropStart? machine.toList (machine ++ "." ++ domain).toList = some ('.' :: domain.toList) :=
      Text.dropStart?_eq_some_iff.mpr (by simp)
    simp only [start]

/-- The first uuid that the settings of a machine's firmware name is the wanted one, up to the case of ASCII letters. -/
def TellsUuid (config : StringMap) (uuid : String) : Prop :=
  ∃ settings before found after, config.get? "smbios1" = some settings ∧
    Text.pieces ',' settings.toList = before ++ ("uuid=" ++ found).toList :: after ∧
    (∀ piece ∈ before, ¬"uuid=".toList <+: piece) ∧
    found.toList.map Char.toLower = uuid.toList.map Char.toLower

theorem uuidOf?_eq_some_iff {settings found : String} : uuidOf? settings = some found ↔
    ∃ before after, Text.pieces ',' settings.toList = before ++ ("uuid=" ++ found).toList :: after ∧
      ∀ piece ∈ before, ¬"uuid=".toList <+: piece := by
  rw [uuidOf?, List.findSome?_eq_some_iff]
  constructor
  · intro h
    obtain ⟨before, piece, after, split, here, none⟩ := h
    obtain ⟨rest, start, rfl⟩ := Option.map_eq_some_iff.mp here
    obtain rfl := Text.dropStart?_eq_some_iff.mp start
    refine ⟨before, after, by simpa using split, fun p mem => Text.isNone_dropStart?_iff.mp ?_⟩
    simpa using none p mem
  · intro h
    obtain ⟨before, after, split, none⟩ := h
    refine ⟨before, _, after, split, ?_, fun p mem => ?_⟩
    · have start : Text.dropStart? "uuid=".toList ("uuid=" ++ found).toList = some found.toList :=
        Text.dropStart?_eq_some_iff.mpr String.toList_append
      rw [start]
      simp
    · simpa using Text.isNone_dropStart?_iff.mpr (none p mem)

theorem hasUuid_iff {config : StringMap} {uuid : String} : hasUuid config uuid = true ↔ TellsUuid config uuid := by
  have told : hasUuid config uuid = true ↔
      ∃ found, (config.get? "smbios1").bind uuidOf? = some found ∧
        found.toList.map Char.toLower = uuid.toList.map Char.toLower := by
    unfold hasUuid sameLetters
    cases (config.get? "smbios1").bind uuidOf? <;> simp
  rw [told, TellsUuid]
  simp only [Option.bind_eq_some_iff, uuidOf?_eq_some_iff]
  constructor
  · rintro ⟨found, ⟨settings, there, before, after, split, none⟩, same⟩
    exact ⟨settings, before, found, after, there, split, none, same⟩
  · rintro ⟨settings, before, found, after, there, split, none, same⟩
    exact ⟨found, ⟨settings, there, before, after, split, none⟩, same⟩

end Machine

/-- By its entry in the list of a region a machine may be the one that is looked for. -/
def Hypervisor.ClusterResource.MayBe (r : ClusterResource) (filter : MachineFilter) (vmid : UInt32) (name : String) :
    Prop :=
  r.kind = "qemu" ∧ r.vmid = some vmid ∧ r.name = some name ∧
    ∀ node, filter.name? = some node → Machine.Named node name

/-- What a machine is looked for by, as a message names it. -/
def MachineFilter.wanted (filter : MachineFilter) : String :=
  (filter.name? <|> filter.uuid?).getD ""

namespace Fleet

/-! ## Look-ups in a region -/

section

variable (region : String) (filter : MachineFilter)

/-- Machines that are passed over, with the exchanges that show that they are not looked for. -/
inductive Passed : List ClusterResource → History → Prop
  | nil : Passed [] []
  | unfit {r : ClusterResource} {rest : List ClusterResource} {reads : History} :
      (∀ vmid name, ¬r.MayBe filter vmid name) → Passed rest reads → Passed (r :: rest) reads
  | other {r : ClusterResource} {rest : List ClusterResource} {reads : History} {vmid : UInt32} {name uuid : String}
      {config : StringMap} : r.MayBe filter vmid name → filter.uuid? = some uuid → ¬Machine.TellsUuid config uuid →
      Passed rest reads → Passed (r :: rest) (reads ++ [Exchange.cluster region (.vmConfig r.node vmid) (.ok config)])

/-- The exchanges that show that a machine is looked for: its configuration tells the wanted uuid, if there is one. -/
inductive Confirmed (r : ClusterResource) (vmid : UInt32) : History → Prop
  | byName : filter.uuid? = none → Confirmed r vmid []
  | byUuid {uuid : String} {config : StringMap} : filter.uuid? = some uuid → Machine.TellsUuid config uuid →
      Confirmed r vmid [Exchange.cluster region (.vmConfig r.node vmid) (.ok config)]

/-- What comes of the machines that a region lists: none of them is looked for, or one is and none before it, or the
configuration of one that may be looked for cannot be read. -/
inductive Among : List ClusterResource → Except Failure (Option Machine) → History → Prop
  | none {machines : List ClusterResource} {reads : History} : Passed region filter machines reads →
      Among machines (.ok none) reads
  | found {before : List ClusterResource} {r : ClusterResource} {vmid : UInt32} {name : String} {reads read : History}
      (after : List ClusterResource) : Passed region filter before reads → r.MayBe filter vmid name →
      Confirmed region filter r vmid read →
      Among (before ++ r :: after) (.ok (some ⟨region, r.node, vmid, name⟩)) (read ++ reads)
  | unread {before : List ClusterResource} {r : ClusterResource} {vmid : UInt32} {name uuid : String} {reads : History}
      (after : List ClusterResource) (f : Failure) : Passed region filter before reads → r.MayBe filter vmid name →
      filter.uuid? = some uuid →
      Among (before ++ r :: after) (.error f) (Exchange.cluster region (.vmConfig r.node vmid) (.error f) :: reads)

/-- What comes of a region: its machines are listed and looked through, unless they cannot be listed. -/
inductive LookUp : Except Failure (Option Machine) → History → Prop
  | searched {machines : List ClusterResource} {outcome : Except Failure (Option Machine)} {reads : History} :
      Among region filter machines outcome reads →
      LookUp outcome (reads ++ [Exchange.cluster region (.resources .vm) (.ok machines)])
  | unlisted (f : Failure) : LookUp (.error f) [Exchange.cluster region (.resources .vm) (.error f)]

variable {region filter} {r : ClusterResource} {rest : List ClusterResource} {vmid : UInt32} {name : String}
  {outcome : Except Failure (Option Machine)} {reads : History}

/-- A machine that is passed over makes no difference to what comes of those behind it. -/
theorem Among.behind (r : ClusterResource) (read : History)
    (pass : ∀ {machines reads}, Passed region filter machines reads →
      Passed region filter (r :: machines) (reads ++ read))
    (among : Among region filter rest outcome reads) : Among region filter (r :: rest) outcome (reads ++ read) := by
  cases among with
  | none passed => exact .none (pass passed)
  | found after passed may confirmed =>
    rw [List.append_assoc]
    exact .found after (pass passed) may confirmed
  | unread after f passed may uuid => exact .unread after f (pass passed) may uuid

/-- A machine that cannot be the one is passed over, -/
theorem findMachineAmong_unfit (h : ∀ vmid name, ¬r.MayBe filter vmid name) :
    findMachineAmong region filter (r :: rest) = findMachineAmong region filter rest := by
  rw [findMachineAmong]
  split
  · rename_i vmid name kind number named
    refine if_neg fun fits => h vmid name ⟨kind, number, named, fun node wanted => Machine.isNamed_iff.mp ?_⟩
    simpa [wanted] using fits
  · rfl

/-- and any other one is compared by its uuid, if one is wanted. -/
theorem findMachineAmong_mayBe (h : r.MayBe filter vmid name) : findMachineAmong region filter (r :: rest) =
    match filter.uuid? with
    | none => pure (some ⟨region, r.node, vmid, name⟩)
    | some uuid => (do
      let config ← Service.cluster region (.vmConfig r.node vmid)
      if Machine.hasUuid config uuid then pure (some ⟨region, r.node, vmid, name⟩)
      else findMachineAmong region filter rest) := by
  obtain ⟨kind, number, named, fits⟩ := h
  have like : (filter.name?.map fun wanted => Machine.isNamed wanted name).getD true = true := by
    cases wanted : filter.name? with
    | none => rfl
    | some node => exact Machine.isNamed_iff.mpr (fits node wanted)
  rw [findMachineAmong, kind, number, named]
  refine (if_pos like).trans ?_
  cases filter.uuid? with
  | none => rfl
  | some uuid => rfl

theorem findMachineAmong_takes (region : String) (filter : MachineFilter) (machines : List ClusterResource) :
    (findMachineAmong region filter machines).Takes (Among region filter machines) := by
  induction machines with
  | nil => exact takes_pure (.none .nil)
  | cons r rest ih =>
    by_cases may : ∃ vmid name, r.MayBe filter vmid name
    · obtain ⟨vmid, name, may⟩ := may
      rw [findMachineAmong_mayBe may]
      cases uuid : filter.uuid? with
      | none => exact takes_pure (.found rest .nil may (.byName uuid))
      | some wanted =>
        intro outcome made run
        rcases runsTo_cluster_bind.mp run with ⟨config, run⟩ | ⟨f, rfl, rfl⟩
        · split at run
          · rename_i told
            obtain ⟨rfl, rfl⟩ := runsTo_pure.mp run
            exact .found rest .nil may (.byUuid uuid (Machine.hasUuid_iff.mp told))
          · rename_i untold
            obtain ⟨reads, alone, rfl⟩ := runsTo_later.mp run
            exact (ih _ _ alone).behind r _ (.other may uuid (mt Machine.hasUuid_iff.mpr untold))
        · exact .unread rest f .nil may uuid
    · have unfit : ∀ vmid name, ¬r.MayBe filter vmid name := fun vmid name h => may ⟨vmid, name, h⟩
      rw [findMachineAmong_unfit unfit]
      intro outcome made run
      have behind := (ih _ _ run).behind r [] fun passed => by
        rw [List.append_nil]
        exact .unfit unfit passed
      rwa [List.append_nil] at behind

theorem findMachineIn_takes (region : String) (filter : MachineFilter) :
    (findMachineIn region filter).Takes (LookUp region filter) := by
  intro outcome made run
  rcases runsTo_cluster_bind.mp run with ⟨machines, run⟩ | ⟨f, rfl, rfl⟩
  · obtain ⟨reads, alone, rfl⟩ := runsTo_later.mp run
    exact .searched (findMachineAmong_takes region filter machines _ _ alone)
  · exact .unlisted f

/-! ### The exchanges of a look-up -/

/-- Every exchange is with the cluster of one of some regions. -/
def InRegions (regions : List String) (made : History) : Prop :=
  ∀ e ∈ made, ∃ region ∈ regions, ∃ r x, e = Exchange.cluster region r x

/-- Some call of a cluster failed with the failure. -/
def Fails (made : History) (f : Failure) : Prop :=
  ∃ region r, Exchange.cluster region r (.error f) ∈ made

variable {regions : List String} {now later made : History} {f : Failure}

theorem inRegions_append : InRegions regions (later ++ now) ↔ InRegions regions later ∧ InRegions regions now :=
  List.forall_mem_append

theorem inRegions_nil : InRegions regions [] :=
  List.forall_mem_nil _

theorem inRegions_single {r : Hypervisor.Request} {x : Except Failure r.Answer} :
    InRegions [region] [Exchange.cluster region r x] :=
  List.forall_mem_singleton.mpr ⟨region, List.mem_singleton_self _, r, x, rfl⟩

theorem InRegions.mono {more : List String} (h : InRegions regions made) (sub : regions ⊆ more) : InRegions more made :=
  fun e mem => (h e mem).imp fun _ here => ⟨sub here.1, here.2⟩

/-- Exchanges in a region and in other ones have none in common. -/
theorem eq_nil_of_apart (fresh : region ∉ regions) (here : InRegions [region] made) (there : InRegions regions made) :
    made = [] := by
  refine List.eq_nil_iff_forall_not_mem.mpr fun e mem => ?_
  obtain ⟨_, one, _, _, rfl⟩ := here e mem
  obtain ⟨_, other, _, _, same⟩ := there _ mem
  obtain rfl := List.mem_singleton.mp one
  cases same
  exact fresh other

/-- What was exchanged in a region can be told from what came later in other ones. -/
theorem eq_of_append {now' later' : History} (fresh : region ∉ regions) (here : InRegions [region] now)
    (here' : InRegions [region] now') (there : InRegions regions later) (there' : InRegions regions later')
    (h : later ++ now = later' ++ now') : later = later' ∧ now = now' := by
  rcases List.append_eq_append_iff.mp h with ⟨between, rfl, rfl⟩ | ⟨between, rfl, rfl⟩
  · obtain rfl := eq_nil_of_apart fresh (inRegions_append.mp here).1 (inRegions_append.mp there').2
    simp
  · obtain rfl := eq_nil_of_apart fresh (inRegions_append.mp here').1 (inRegions_append.mp there).2
    simp

theorem fails_append : Fails (later ++ now) f ↔ Fails later f ∨ Fails now f := by
  simp only [Fails, List.mem_append, exists_or]

theorem not_fails_nil : ¬Fails [] f := by
  rintro ⟨_, _, mem⟩
  cases mem

theorem fails_cons {r : Hypervisor.Request} {x : Except Failure r.Answer} :
    Fails (Exchange.cluster region r x :: made) f ↔ x = .error f ∨ Fails made f := by
  constructor
  · intro h
    obtain ⟨here, q, mem⟩ := h
    rcases List.mem_cons.mp mem with same | mem
    · cases same
      exact .inl rfl
    · exact .inr ⟨here, q, mem⟩
  · rintro (rfl | ⟨here, q, mem⟩)
    · exact ⟨region, r, List.mem_cons_self⟩
    · exact ⟨here, q, List.mem_cons_of_mem _ mem⟩

theorem Passed.inRegions {machines : List ClusterResource} (passed : Passed region filter machines reads) :
    InRegions [region] reads := by
  induction passed with
  | nil => exact inRegions_nil
  | unfit _ _ ih => exact ih
  | other _ _ _ _ ih => exact inRegions_append.mpr ⟨ih, inRegions_single⟩

theorem Passed.not_fails {machines : List ClusterResource} (passed : Passed region filter machines reads) :
    ¬Fails reads f := by
  induction passed with
  | nil => exact not_fails_nil
  | unfit _ _ ih => exact ih
  | other _ _ _ _ ih => simp [fails_append, fails_cons, not_fails_nil, ih]

/-- A look-up asks the cluster of its region, -/
theorem LookUp.inRegions (look : LookUp region filter outcome made) : InRegions [region] made := by
  cases look with
  | unlisted f => exact inRegions_single
  | searched among =>
    refine inRegions_append.mpr ⟨?_, inRegions_single⟩
    cases among with
    | none passed => exact passed.inRegions
    | found after passed may confirmed =>
      refine inRegions_append.mpr ⟨?_, passed.inRegions⟩
      cases confirmed with
      | byName => exact inRegions_nil
      | byUuid => exact inRegions_single
    | unread after f passed may uuid =>
      rw [← List.singleton_append]
      exact inRegions_append.mpr ⟨inRegions_single, passed.inRegions⟩

/-- at least for its machines, -/
theorem LookUp.ne_nil (look : LookUp region filter outcome made) : made ≠ [] := by
  cases look with
  | searched => exact List.append_ne_nil_of_right_ne_nil _ (List.cons_ne_nil _ _)
  | unlisted => exact List.cons_ne_nil _ _

/-- and fails exactly if a call does. -/
theorem LookUp.fails_iff (look : LookUp region filter outcome made) : Fails made f ↔ outcome = .error f := by
  cases look with
  | unlisted g => simp [fails_cons, not_fails_nil]
  | searched among =>
    rw [fails_append, fails_cons]
    cases among with
    | none passed => simp [passed.not_fails, not_fails_nil]
    | found after passed may confirmed =>
      cases confirmed with
      | byName => simp [passed.not_fails, not_fails_nil]
      | byUuid => simp [fails_cons, passed.not_fails, not_fails_nil]
    | unread after g passed may uuid => simp [fails_cons, passed.not_fails, not_fails_nil]

end

/-! ## The search through all regions -/

/-- A look-up leads to the next region: it finds no machine, or its failure is passed over. -/
def LeadsOn (spared : Failure → Prop) (outcome : Except Failure (Option Machine)) : Prop :=
  outcome = .ok none ∨ ∃ f, outcome = .error f ∧ spared f

/-- What comes of some regions, which are looked through in their order: a look-up that does not lead to the next region
is the last one, and what is `missing` after all regions is told then. -/
inductive Sought (filter : MachineFilter) (spared missing : Failure → Prop) :
    List String → Except Failure Machine → History → Prop
  | missing {f : Failure} : missing f → Sought filter spared missing [] (.error f) []
  | next {region : String} {regions : List String} {look : Except Failure (Option Machine)}
      {outcome : Except Failure Machine} {now later : History} : LookUp region filter look now → LeadsOn spared look →
      Sought filter spared missing regions outcome later →
      Sought filter spared missing (region :: regions) outcome (later ++ now)
  | found {region : String} {machine : Machine} {now : History} (regions : List String) :
      LookUp region filter (.ok (some machine)) now →
      Sought filter spared missing (region :: regions) (.ok machine) now
  | failed {region : String} {f : Failure} {now : History} (regions : List String) :
      LookUp region filter (.error f) now → ¬spared f → Sought filter spared missing (region :: regions) (.error f) now

/-- The search as it is: every failure of a region ends it. -/
def Finds (filter : MachineFilter) : List String → Except Failure Machine → History → Prop :=
  Sought filter (fun _ => False) (· = .resourceNotFound "VM" filter.wanted)

/-- The search as it is meant: a region in which something is not found has no match. -/
def FindsAnywhere (filter : MachineFilter) : List String → Except Failure Machine → History → Prop :=
  Sought filter (·.isNotFound = true) (·.isNotFound = true)

/-- Something is not found in no region but the last one. -/
def LacksInLast (regions : List String) (made : History) : Prop :=
  ∀ region r f, Exchange.cluster region r (.error f) ∈ made → f.isNotFound = true → regions.getLast? = some region

section

variable {filter : MachineFilter} {spared missing : Failure → Prop} {region : String} {regions : List String}
  {outcome : Except Failure Machine} {made : History}

theorem findMachineOver_takes (filter : MachineFilter) (regions : List String) :
    (findMachineOver filter regions).Takes (Finds filter regions) := by
  induction regions with
  | nil => exact takes_throw (.missing rfl)
  | cons region regions ih =>
    refine (findMachineIn_takes region filter).bind (fun found now look => ?_) fun f now look => ?_
    · cases found with
      | some machine => exact takes_pure (.found regions look)
      | none => exact ih.mono fun outcome later sought => .next look (.inl rfl) sought
    · exact .failed regions look id

theorem Sought.inRegions (sought : Sought filter spared missing regions outcome made) : InRegions regions made := by
  induction sought with
  | missing => exact inRegions_nil
  | next look _ _ ih =>
    exact inRegions_append.mpr ⟨ih.mono (List.subset_cons_self _ _), look.inRegions.mono (by simp)⟩
  | found _ look => exact look.inRegions.mono (by simp)
  | failed _ look => exact look.inRegions.mono (by simp)

/-- Only without regions nothing is asked. -/
theorem Sought.regions_eq_nil (sought : Sought filter spared missing regions outcome []) : regions = [] := by
  generalize none : ([] : History) = made at sought
  cases sought with
  | missing => rfl
  | next look => exact absurd (List.append_eq_nil_iff.mp none.symm).2 look.ne_nil
  | found _ look => exact absurd none.symm look.ne_nil
  | failed _ look => exact absurd none.symm look.ne_nil

/-- What a region lacks where no call fails is lacking in the later ones. -/
theorem lacksInLast_cons {now later : History} (none : ∀ f, ¬Fails now f) (there : InRegions regions later) :
    LacksInLast (region :: regions) (later ++ now) ↔ LacksInLast regions later := by
  constructor
  · intro lacks here r f mem lacking
    have last := lacks here r f (List.mem_append_left _ mem) lacking
    obtain ⟨_, some, -⟩ := there _ mem
    rwa [List.getLast?_cons_of_ne_nil (List.ne_nil_of_mem some)] at last
  · intro lacks here r f mem lacking
    rcases List.mem_append.mp mem with mem | mem
    · rw [List.getLast?_cons, lacks here r f mem lacking]
      rfl
    · exact absurd ⟨here, r, mem⟩ (none f)

/-- After a region that has no match, what is meant is told from the later ones. -/
theorem findsAnywhere_next_iff {now later : History} (fresh : region ∉ regions)
    (looked : LookUp region filter (.ok none) now) (finds : Finds filter regions outcome later) :
    FindsAnywhere filter (region :: regions) outcome (later ++ now) ↔ FindsAnywhere filter regions outcome later := by
  refine ⟨fun anywhere => ?_, .next looked (.inl rfl)⟩
  -- a search that ends in this region has made no later exchanges
  have ended {o : Except Failure (Option Machine)} (look : LookUp region filter o (later ++ now)) :
      later = [] ∧ regions = [] := by
    obtain rfl := eq_nil_of_apart fresh (inRegions_append.mp look.inRegions).1 finds.inRegions
    exact ⟨rfl, finds.regions_eq_nil⟩
  generalize whole : later ++ now = made at anywhere
  cases anywhere with
  | next looked' _ anywhere =>
    obtain ⟨rfl, -⟩ := eq_of_append fresh looked.inRegions looked'.inRegions finds.inRegions anywhere.inRegions whole
    exact anywhere
  | found _ looked' =>
    obtain ⟨rfl, rfl⟩ := ended (whole ▸ looked')
    cases finds
  | failed _ looked' =>
    obtain ⟨rfl, rfl⟩ := ended (whole ▸ looked')
    obtain rfl : now = made := whole
    exact absurd (looked.fails_iff.mp (looked'.fails_iff.mpr rfl)) nofun

/-- A region whose look-up fails is where the search is meant to end, unless something is not found there and others
follow. -/
theorem findsAnywhere_failed_iff {f : Failure} {now : History} (fresh : region ∉ regions)
    (looked : LookUp region filter (.error f) now) :
    FindsAnywhere filter (region :: regions) (.error f) now ↔ (f.isNotFound = true → regions = []) := by
  constructor
  · intro anywhere lacking
    cases anywhere with
    | next _ _ anywhere =>
      obtain rfl := eq_nil_of_apart fresh (inRegions_append.mp looked.inRegions).1 anywhere.inRegions
      exact anywhere.regions_eq_nil
    | failed _ _ kept => exact absurd lacking kept
  · intro last
    by_cases lacking : f.isNotFound = true
    · obtain rfl := last lacking
      exact .next looked (.inr ⟨f, rfl, lacking⟩) (.missing lacking)
    · exact .failed regions looked lacking

/-- Its failure is the only one. -/
theorem lacksInLast_failed_iff {f : Failure} {now : History} (fresh : region ∉ regions)
    (looked : LookUp region filter (.error f) now) :
    LacksInLast (region :: regions) now ↔ (f.isNotFound = true → regions = []) := by
  have only {here : String} {r : Hypervisor.Request} {g : Failure}
      (mem : Exchange.cluster here r (.error g) ∈ now) : here = region ∧ f = g := by
    obtain ⟨_, one, _, _, same⟩ := looked.inRegions _ mem
    cases same
    exact ⟨List.mem_singleton.mp one, Except.error.inj (looked.fails_iff.mp ⟨here, r, mem⟩)⟩
  constructor
  · intro lacks lacking
    obtain ⟨here, r, mem⟩ := looked.fails_iff.mpr rfl
    obtain ⟨rfl, -⟩ := only mem
    have last := lacks here r f mem lacking
    cases regions with
    | nil => rfl
    | cons next regions =>
      rw [List.getLast?_cons_cons] at last
      exact absurd (List.mem_of_getLast? last) fresh
  · intro last here r g mem lacking
    obtain ⟨rfl, rfl⟩ := only mem
    rw [last lacking]
    rfl

/-- The search comes to what is meant exactly if something is not found in no region but the last one. -/
theorem Finds.anywhere_iff (finds : Finds filter regions outcome made) (distinct : regions.Nodup) :
    FindsAnywhere filter regions outcome made ↔ LacksInLast regions made := by
  induction finds with
  | missing lacking =>
    subst lacking
    exact iff_of_true (.missing rfl) fun _ _ _ mem => nomatch mem
  | @next region regions look outcome now later looked leads finds ih =>
    obtain ⟨fresh, distinct⟩ := List.nodup_cons.mp distinct
    obtain rfl : look = .ok none := leads.elim id fun h => h.elim fun _ h => h.2.elim
    have calm (f : Failure) : ¬Fails now f := fun h => nomatch looked.fails_iff.mp h
    rw [findsAnywhere_next_iff fresh looked finds, lacksInLast_cons calm finds.inRegions, ih distinct]
  | found regions looked =>
    refine iff_of_true (.found regions looked) fun here r f mem _ => ?_
    exact absurd (looked.fails_iff.mp ⟨here, r, mem⟩) nofun
  | failed regions looked =>
    obtain ⟨fresh, -⟩ := List.nodup_cons.mp distinct
    rw [findsAnywhere_failed_iff fresh looked, lacksInLast_failed_iff fresh looked]

/-- **The search for a machine.** Regions are visited in the order of their bytes. Whatever the clusters answer, the
search finds the first machine of the first region that has one, fails with the first look-up that fails, and tells that
the machine is missing after all regions. It comes to what is meant, that a region has no match where something is not
found, exactly if something is not found in no region but the last one. -/
theorem findMachine_exact {κ : Type} (fleet : Fleet κ) (filter : MachineFilter)
    (run : (fleet.findMachine filter).RunsTo anyAnswers [] outcome made) :
    (fleet.regions.map Text.bytes).Pairwise (· < ·) ∧
      Finds filter fleet.regions outcome made ∧
      (FindsAnywhere filter fleet.regions outcome made ↔ LacksInLast fleet.regions made) := by
  have finds : Finds filter fleet.regions outcome made := findMachineOver_takes filter fleet.regions _ _ run
  exact ⟨fleet.regions_rising, finds, finds.anywhere_iff fleet.clusters.nodup_keys⟩

end

/-! ### Two regions -/

namespace TwoRegions

def fleet : Fleet ClusterAccess :=
  ⟨((∅ : TextMap ClusterAccess).insert "r1" {}).insert "r2" {}⟩

/-- A machine is looked for by its uuid. -/
def filter : MachineFilter :=
  .withUuid "abcd"

/-- A cluster with one machine. -/
def cluster (node name uuid : String) (vmid : UInt32) : Site.ClusterState where
  machines := [{ kind := "qemu", node, name := some name, vmid := some vmid }]
  configs := Keyed.empty.put (node, vmid) (some ((∅ : StringMap).insert "smbios1" ("base64=1,uuid=" ++ uuid)))

/-- The machine is in the second region. -/
def site : Site where
  clusters :=
    (Keyed.empty.put "r1" (some (cluster "z1" "w1" "0000" 100))).put "r2" (some (cluster "z2" "w2" "ABCD" 200))

/-- What is said of a machine that is gone since it was listed. -/
def vanished : Failure :=
  .clusterApi "r1" (some 404) "404 Not Found: no such machine"

/-- The machine of the first region vanishes after it was listed. -/
def vanishing : Site where
  clusters := site.clusters
  faults :=
    [ { concerns := fun
          | .cluster "r1" (.vmConfig ..) => true
          | _ => false,
        failure := vanished } ]

end TwoRegions

/-- In two regions the machine of the second one is found, as it is meant. -/
theorem findMachine_exact_second :
    (Site.run (TwoRegions.fleet.findMachine TwoRegions.filter) TwoRegions.site).1 = .ok ⟨"r2", "z2", 200, "w2"⟩ ∧
      FindsAnywhere TwoRegions.filter TwoRegions.fleet.regions
        (Site.run (TwoRegions.fleet.findMachine TwoRegions.filter) TwoRegions.site).1
        (Site.exchanges (TwoRegions.fleet.findMachine TwoRegions.filter) TwoRegions.site) := by
  have run := Site.runsTo_exchanges (TwoRegions.fleet.findMachine TwoRegions.filter) TwoRegions.site
  obtain ⟨-, -, meant⟩ := findMachine_exact TwoRegions.fleet TwoRegions.filter run
  have succeeded : (Site.exchanges (TwoRegions.fleet.findMachine TwoRegions.filter) TwoRegions.site).all
      Exchange.succeeded = true := by rfl
  refine ⟨by rfl, meant.mpr fun region r f mem _ => ?_⟩
  exact absurd (List.all_eq_true.mp succeeded _ mem) Bool.false_ne_true

/-- If the machine of the first region vanishes after it was listed, the search fails with that, although the machine
that is looked for is found in the second region. -/
theorem findMachine_stops_at_vanished :
    (Site.run (TwoRegions.fleet.findMachine TwoRegions.filter) TwoRegions.vanishing).1 = .error TwoRegions.vanished ∧
      TwoRegions.vanished.isNotFound = true ∧
      (Site.run (findMachineIn "r2" TwoRegions.filter) TwoRegions.vanishing).1 = .ok (some ⟨"r2", "z2", 200, "w2"⟩) ∧
      ¬FindsAnywhere TwoRegions.filter TwoRegions.fleet.regions
        (Site.run (TwoRegions.fleet.findMachine TwoRegions.filter) TwoRegions.vanishing).1
        (Site.exchanges (TwoRegions.fleet.findMachine TwoRegions.filter) TwoRegions.vanishing) := by
  refine ⟨by rfl, by rfl, by rfl, fun anywhere => ?_⟩
  have run := Site.runsTo_exchanges (TwoRegions.fleet.findMachine TwoRegions.filter) TwoRegions.vanishing
  have finds := findMachineOver_takes TwoRegions.filter TwoRegions.fleet.regions _ _ run
  have lacks := (finds.anywhere_iff (by decide)).mp anywhere
  have asked : Site.exchanges (TwoRegions.fleet.findMachine TwoRegions.filter) TwoRegions.vanishing =
      [Exchange.cluster "r1" (.vmConfig "z1" 100) (.error TwoRegions.vanished),
        Exchange.cluster "r1" (.resources .vm) (.ok (TwoRegions.cluster "z1" "w1" "0000" 100).machines)] := by rfl
  have last := lacks "r1" (.vmConfig "z1" 100) TwoRegions.vanished (asked ▸ List.mem_cons_self) rfl
  exact absurd last (by decide)

end Fleet

end ClusterVolumes
