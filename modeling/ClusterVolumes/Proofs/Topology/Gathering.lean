import ClusterVolumes.Topology
import Mathlib.Tactic.Common

/-!
# Labels are gathered field by field

A placement is gathered from the entries of a requirement until it is complete. `Topology.texts` lists what the entries
say under some labels, and `Placement.Needed` says which beginning of the entries is looked at: the shortest one that
tells a region and a zone or a node.

Along the recursion this beginning is `Placement.taken` (`gather_eq`, `needed_taken`), and each field of the placement
is the first text of its labels in there (`absorbAll_eq`). The main result is `resolve_fieldwise`.
-/

namespace ClusterVolumes

/-! ## Texts under labels -/

namespace Label

/-- The labels of the region, the driver's first. -/
def regions : List String := [region, generalRegion]

/-- The labels of the zone, the driver's first. -/
def zones : List String := [zone, generalZone]

/-- The labels of the node. -/
def nodes : List String := [node]

end Label

namespace Topology

/-- What some entries say under some labels: entry by entry, and in an entry in the order of the labels. A text that is
empty says nothing. -/
def texts (labels : List String) (entries : List Topology) : List String :=
  (entries.flatMap fun t => labels.map t.segments.getText).filter fun s => !s.isEmpty

variable {labels : List String}

@[simp] theorem texts_nil : texts labels [] = [] := rfl

@[simp] theorem texts_append (front back : List Topology) :
    texts labels (front ++ back) = texts labels front ++ texts labels back := by
  simp [texts]

theorem texts_cons (labels : List String) (t : Topology) (entries : List Topology) :
    texts labels (t :: entries) = texts labels [t] ++ texts labels entries :=
  texts_append [t] entries

/-- Nothing is said exactly if every label is missing or empty in every entry. -/
theorem texts_eq_nil_iff {entries : List Topology} :
    texts labels entries = [] ↔ ∀ t ∈ entries, ∀ label ∈ labels, t.segments.getText label = "" := by
  simp only [texts, List.filter_eq_nil_iff, List.mem_flatMap, List.mem_map, Bool.not_eq_true, Bool.not_eq_false',
    String.isEmpty_iff]
  constructor
  · intro silent t ht label hlabel
    exact silent _ ⟨t, ht, label, hlabel, rfl⟩
  · rintro silent s ⟨t, ht, label, hlabel, rfl⟩
    exact silent t ht label hlabel

theorem get?_eq_find? (t : Topology) (label : String) :
    t.get? label = [t.segments.getText label].find? fun s => !s.isEmpty := by
  unfold get? TextMap.getText
  cases t.segments.get? label with
  | none => rfl
  | some s => by_cases h : s.isEmpty <;> simp [h, Option.filter]

theorem region?_eq_head? (t : Topology) : t.region? = (texts Label.regions [t]).head? := by
  simp only [region?, get?_eq_find?, texts, Label.regions, List.flatMap_singleton, List.map_cons, List.map_nil,
    List.head?_filter]
  by_cases own : (t.segments.getText Label.region).isEmpty <;> simp [own]

theorem zone?_eq_head? (t : Topology) : t.zone? = (texts Label.zones [t]).head? := by
  simp only [zone?, get?_eq_find?, texts, Label.zones, List.flatMap_singleton, List.map_cons, List.map_nil,
    List.head?_filter]
  by_cases own : (t.segments.getText Label.zone).isEmpty <;> simp [own]

theorem node?_eq_head? (t : Topology) : t.node? = (texts Label.nodes [t]).head? := by
  simp only [node?, get?_eq_find?, texts, Label.nodes, List.flatMap_singleton, List.map_cons, List.map_nil,
    List.head?_filter]

end Topology

namespace Placement

open ClusterVolumes.Topology (texts texts_cons texts_append texts_eq_nil_iff)

/-! ## Entries that are absorbed -/

/-- What is known when some entries were absorbed. -/
def absorbAll (p : Placement) (entries : List Topology) : Placement :=
  entries.foldl absorb p

/-- Each field stays, or is the first text of its labels. -/
theorem absorbAll_eq (p : Placement) (entries : List Topology) :
    p.absorbAll entries =
      ⟨p.region <|> (texts Label.regions entries).head?, p.zone <|> (texts Label.zones entries).head?,
        p.node <|> (texts Label.nodes entries).head?⟩ := by
  induction entries generalizing p with
  | nil => simp [absorbAll]
  | cons t entries ih =>
    have next : p.absorbAll (t :: entries) = (p.absorb t).absorbAll entries := rfl
    have front (labels : List String) := texts_cons labels t entries
    rw [next, ih]
    simp [front, absorb, Topology.region?_eq_head?, Topology.zone?_eq_head?, Topology.node?_eq_head?, Option.or_assoc]

/-- Some entries tell a region, and a zone or a node. -/
def Suffices (entries : List Topology) : Prop :=
  texts Label.regions entries ≠ [] ∧ (texts Label.zones entries ≠ [] ∨ texts Label.nodes entries ≠ [])

theorem complete_absorbAll_iff (entries : List Topology) :
    (absorbAll {} entries).complete = true ↔ Suffices entries := by
  simp [absorbAll_eq, complete, Suffices, List.isSome_head?]

/-- More entries suffice as well. -/
theorem Suffices.more {front : List Topology} (h : Suffices front) (back : List Topology) :
    Suffices (front ++ back) := by
  obtain ⟨region, place⟩ := h
  simp only [Suffices, texts_append, ne_eq, List.append_eq_nil_iff, not_and]
  refine ⟨fun none => absurd none region, ?_⟩
  exact place.imp (fun some none => absurd none some) fun some none => absurd none some

/-! ## The beginning that is needed -/

/-- The entries that are looked at. -/
def taken (p : Placement) : List Topology → List Topology
  | [] => []
  | t :: entries => if (p.absorb t).complete then [t] else t :: (p.absorb t).taken entries

theorem gather_eq (p : Placement) (entries : List Topology) : p.gather entries = p.absorbAll (p.taken entries) := by
  induction entries generalizing p with
  | nil => rfl
  | cons t entries ih =>
    unfold gather taken
    split
    · rfl
    · exact ih (p.absorb t)

theorem taken_isPrefix (p : Placement) (entries : List Topology) : p.taken entries <+: entries := by
  induction entries generalizing p with
  | nil => exact List.prefix_rfl
  | cons t entries ih =>
    unfold taken
    split
    · exact ⟨entries, rfl⟩
    · exact List.cons_prefix_cons.mpr ⟨rfl, ih (p.absorb t)⟩

/-- The look ends with a complete placement or with the last entry. -/
theorem complete_or_taken_eq (p : Placement) (entries : List Topology) :
    (p.absorbAll (p.taken entries)).complete = true ∨ p.taken entries = entries := by
  induction entries generalizing p with
  | nil => exact .inr rfl
  | cons t entries ih =>
    unfold taken
    split
    · rename_i complete
      exact .inl complete
    · exact (ih (p.absorb t)).imp_right (congrArg (t :: ·))

/-- It goes on as long as the placement is not complete. -/
theorem taken_length_le {p : Placement} {entries front : List Topology} (h : p.complete = false)
    (beginning : front <+: entries) (complete : (p.absorbAll front).complete = true) :
    (p.taken entries).length ≤ front.length := by
  induction entries generalizing p front with
  | nil => exact Nat.zero_le _
  | cons t entries ih =>
    cases front with
    | nil => exact absurd complete (by simp [absorbAll, h])
    | cons u front =>
      obtain ⟨rfl, rest⟩ := List.cons_prefix_cons.mp beginning
      unfold taken
      split
      · exact Nat.succ_le_succ (Nat.zero_le _)
      · rename_i incomplete
        exact Nat.succ_le_succ (ih (Bool.eq_false_iff.mpr incomplete) rest complete)

/-- The shortest beginning of some entries that suffices, or all of them if none does. -/
structure Needed (entries front : List Topology) : Prop where
  beginning : front <+: entries
  enough : Suffices front ∨ front = entries
  least : ∀ other, other <+: entries → Suffices other → front.length ≤ other.length

/-- There is but one such beginning. -/
theorem Needed.unique {entries front other : List Topology} (h : Needed entries front) (h' : Needed entries other) :
    other = front := by
  have length_le {front other : List Topology} (h : Needed entries front) (h' : Needed entries other) :
      other.length ≤ front.length := by
    rcases h.enough with plenty | rfl
    · exact h'.least front h.beginning plenty
    · exact h'.beginning.length_le
  have shorter : other <+: front := List.prefix_of_prefix_length_le h'.beginning h.beginning (length_le h h')
  exact shorter.eq_of_length (Nat.le_antisymm (length_le h h') (length_le h' h))

theorem needed_taken (entries : List Topology) : Needed entries (taken {} entries) where
  beginning := taken_isPrefix {} entries
  enough := (complete_or_taken_eq {} entries).imp_left (complete_absorbAll_iff _).mp
  least := fun other beginning plenty => taken_length_le rfl beginning ((complete_absorbAll_iff other).mpr plenty)

/-- What suffices of some entries is needed of all entries that begin with it. -/
theorem Needed.of_suffices {entries others front : List Topology} (h : Needed entries front)
    (plenty : Suffices front) (beginning : front <+: others) : Needed others front where
  beginning := beginning
  enough := .inl plenty
  least := by
    intro other hother enough
    by_contra longer
    have shorter : other <+: front := List.prefix_of_prefix_length_le hother beginning (by omega)
    exact longer (h.least other (shorter.trans h.beginning) enough)

/-! ## Placements -/

/-- The entries of a requirement, the preferred ones first. -/
def entriesOf (requirement : TopologyRequirement) : List Topology :=
  requirement.preferred ++ requirement.requisite

theorem resolve_eq {requirement : TopologyRequirement} {front : List Topology}
    (needed : Needed (entriesOf requirement) front) :
    resolve requirement =
      ⟨(texts Label.regions front).head?, (texts Label.zones front).head?, (texts Label.nodes front).head?⟩ := by
  obtain rfl := (needed_taken (entriesOf requirement)).unique needed
  have gathered : resolve requirement = absorbAll {} (taken {} (entriesOf requirement)) := gather_eq {} _
  rw [gathered, absorbAll_eq]
  simp

/-- The first text of all entries is that of the needed ones, if these tell any. -/
theorem Needed.head?_texts {entries front : List Topology} (h : Needed entries front) {labels : List String}
    (told : Suffices front → texts labels front ≠ []) : (texts labels front).head? = (texts labels entries).head? := by
  rcases h.enough with plenty | rfl
  · obtain ⟨back, rfl⟩ := h.beginning
    have first : (texts labels front).head?.isSome = true := List.isSome_head?.mpr (told plenty)
    rw [texts_append, List.head?_append, Option.or_of_isSome first]
  · rfl

/-- The needed entries tell of a zone or a node if any entry does. -/
theorem Needed.silent_iff {entries front : List Topology} (h : Needed entries front) :
    (texts Label.zones front = [] ∧ texts Label.nodes front = []) ↔
      texts Label.zones entries = [] ∧ texts Label.nodes entries = [] := by
  rcases h.enough with plenty | rfl
  · obtain ⟨back, rfl⟩ := h.beginning
    refine iff_of_false ?_ ?_
    · exact fun silent => plenty.2.elim (· silent.1) (· silent.2)
    · exact fun silent => (plenty.more back).2.elim (· silent.1) (· silent.2)
  · rfl

/-- The disk may land on any node exactly if neither a zone nor a node is known. -/
theorem landsOn_eq_empty_iff {requirement : TopologyRequirement} {front : List Topology}
    (needed : Needed (entriesOf requirement) front) :
    (resolve requirement).landsOn = "" ↔ texts Label.zones front = [] ∧ texts Label.nodes front = [] := by
  have spoken {labels : List String} {s : String} (h : (texts labels front).head? = some s) : s ≠ "" := by
    have mem := List.mem_of_head? h
    simp only [texts, List.mem_filter] at mem
    simpa using mem.2
  rw [resolve_eq needed, landsOn]
  cases zone : (texts Label.zones front).head? with
  | some z =>
    refine iff_of_false (spoken zone) fun silent => ?_
    rw [silent.1] at zone
    cases zone
  | none =>
    cases node : (texts Label.nodes front).head? with
    | some n =>
      refine iff_of_false (spoken node) fun silent => ?_
      rw [silent.2] at node
      cases node
    | none => exact iff_of_true rfl ⟨List.head?_eq_none_iff.mp zone, List.head?_eq_none_iff.mp node⟩

/-- **Labels are gathered field by field.** One beginning of the entries of a requirement is needed. Region, zone and
node are the first texts of their labels in it, each for itself, and the region is the first one of all entries. If the
beginning suffices, no entry behind it makes a difference. The disk may land on any node exactly if no entry names a
zone or a node, so also if there is no entry. -/
theorem resolve_fieldwise (requirement : TopologyRequirement) :
    ∃ front, Needed (entriesOf requirement) front ∧ (∀ other, Needed (entriesOf requirement) other → other = front) ∧
      resolve requirement =
        ⟨(texts Label.regions front).head?, (texts Label.zones front).head?, (texts Label.nodes front).head?⟩ ∧
      (resolve requirement).region = (texts Label.regions (entriesOf requirement)).head? ∧
      (Suffices front → ∀ other : TopologyRequirement, front <+: entriesOf other →
        resolve other = resolve requirement) ∧
      ((resolve requirement).landsOn = "" ↔
        ∀ t ∈ entriesOf requirement, ∀ label ∈ Label.zones ++ Label.nodes, t.segments.getText label = "") := by
  have needed := needed_taken (entriesOf requirement)
  refine ⟨_, needed, fun other h => needed.unique h, resolve_eq needed, ?_, ?_, ?_⟩
  · rw [resolve_eq needed]
    exact needed.head?_texts fun plenty => plenty.1
  · intro plenty other beginning
    rw [resolve_eq needed, resolve_eq (needed.of_suffices plenty beginning)]
  · rw [landsOn_eq_empty_iff needed, needed.silent_iff, texts_eq_nil_iff, texts_eq_nil_iff]
    simp only [List.forall_mem_append, ← forall_and]

/-- The fields may come from different entries, and a general label counts where the driver's is blank. -/
example :
    resolve
        { preferred :=
            [⟨TextMap.ofList [(Label.region, ""), (Label.generalRegion, "r1")]⟩,
              ⟨TextMap.ofList [(Label.region, "r2"), (Label.zone, "z2")]⟩, ⟨TextMap.ofList [(Label.node, "n3")]⟩]
          requisite := [⟨TextMap.ofList [(Label.generalZone, "z9")]⟩] } =
      { region := some "r1", zone := some "z2" } := by
  decide +kernel

end Placement

end ClusterVolumes
