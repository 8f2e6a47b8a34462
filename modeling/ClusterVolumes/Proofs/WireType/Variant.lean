import ClusterVolumes.Proofs.Hypervisor.Flag

/-!
# Other ways to write a value

A `Variant` of a written value has further members with unknown keys, or tells its flags in other ways. The members may
be put into each object that stands for a structure, however deep it is nested, and they may stand anywhere in it and
hold anything. Nothing is put into maps from texts, since these have no unknown keys.

There is room for so many more containers in a flag as in the place where it stands; an unknown member takes up none.
What a value is read as is the same for all its variants (`Variant.decode`).
-/

namespace ClusterVolumes

open Hypervisor (TellsTrue)

mutual

/-- The second value is another way to write the first one. -/
inductive Variant : {α : Type} → Nat → Codec α → Json → Json → Prop
  | same {α : Type} {room : Nat} {c : Codec α} {j : Json} : Variant room c j j
  /-- A flag is told by another value. -/
  | flag {room : Nat} {b : Bool} {j : Json} :
      j.isReadable = true → j.depth ≤ room → (b = true ↔ TellsTrue j) → Variant room Hypervisor.flag (.bool b) j
  | option {α : Type} {room : Nat} {c : Codec α} {j j' : Json} :
      j ≠ .null → j' ≠ .null → Variant room c j j' → Variant room c.option j j'
  | list {α : Type} {room : Nat} {c : Codec α} {js js' : List Json} :
      VariantItems room c js js' → Variant (room + 1) c.list (.arr js) (.arr js')
  | record {σ : Type} {room : Nat} {r : Record σ} {ms ms' : List (Option String × Json)} :
      VariantMembers room r ms ms' → Variant (room + 1) r.codec (.obj ms) (.obj ms')

/-- The items of the second list are other ways to write those of the first one. -/
inductive VariantItems : {α : Type} → Nat → Codec α → List Json → List Json → Prop
  | nil {α : Type} {room : Nat} {c : Codec α} : VariantItems room c [] []
  | cons {α : Type} {room : Nat} {c : Codec α} {j j' : Json} {js js' : List Json} :
      Variant room c j j' → VariantItems room c js js' → VariantItems room c (j :: js) (j' :: js')

/-- The second members are another way to write the first ones. -/
inductive VariantMembers :
    {σ : Type} → Nat → Record σ → List (Option String × Json) → List (Option String × Json) → Prop
  | nil {σ : Type} {room : Nat} {r : Record σ} : VariantMembers room r [] []
  /-- A member is put in whose key names no field; nothing in it is broken. -/
  | unknown {σ : Type} {room : Nat} {r : Record σ} {k : String} {j : Json} {ms ms' : List (Option String × Json)} :
      k ∉ r.fields.map Field.name → j.isIntact = true → VariantMembers room r ms ms' →
        VariantMembers room r ms ((some k, j) :: ms')
  | same {σ : Type} {room : Nat} {r : Record σ} {m : Option String × Json} {ms ms' : List (Option String × Json)} :
      VariantMembers room r ms ms' → VariantMembers room r (m :: ms) (m :: ms')
  /-- The value of a field is written in another way. -/
  | field {σ : Type} {room : Nat} {r : Record σ} {f : Field σ} {k : String} {j j' : Json}
      {ms ms' : List (Option String × Json)} :
      r.fields.find? (fun g => g.name = k) = some f → VariantField room f j j' → VariantMembers room r ms ms' →
        VariantMembers room r ((some k, j) :: ms) ((some k, j') :: ms')

/-- The second value is another way to write the first one for a field. -/
inductive VariantField : {σ : Type} → Nat → Field σ → Json → Json → Prop
  | of {σ α : Type} {room : Nat} {name : String} {c : Codec α} {get : σ → α} {set : α → σ → σ} {j j' : Json} :
      Variant room c j j' → VariantField room (.of name c get set) j j'
  | must {σ : Type} {room : Nat} {f : Field σ} {j j' : Json} :
      VariantField room f j j' → VariantField room f.must j j'
  | optional {σ α : Type} {room : Nat} {name : String} {c : Codec α} {get : σ → Option α} {set : Option α → σ → σ}
      {j j' : Json} : Variant room c.option j j' → VariantField room (.optional name c get set) j j'

end

mutual

/-- **A value is read in all the ways to write it.** Whatever a reader makes of the first value, it makes of the second
one; that the first one is what a codec wrote is not needed. -/
theorem Variant.decode : ∀ {α : Type} {room : Nat} {c : Codec α} {j j' : Json}, Variant room c j j' → ∀ {a : α},
    c.decode room j = .ok a → c.decode room j' = .ok a
  | _, _, _, _, _, .same, _, read => read
  | _, _, _, _, _, .flag readable fits tells, _, read => by
    cases read
    obtain ⟨b, read⟩ := Hypervisor.flag_decode_iff.mpr ⟨readable, fits⟩
    rw [read, Bool.eq_iff_iff.mpr ((Hypervisor.flag_decode_true_iff read).trans tells.symm)]
    rfl
  | _, _, _, _, _, .option present present' h, _, read => by
    rw [Codec.option_decode present] at read
    rw [Codec.option_decode present']
    obtain ⟨a, read', rfl⟩ := Decoded.map_eq_ok.mp read
    exact Decoded.map_eq_ok.mpr ⟨a, h.decode read', rfl⟩
  | _, _, _, _, _, .list h, _, read => h.decode read
  | _, _, _, _, _, .record h, _, read => h.decode read

theorem VariantItems.decode : ∀ {α : Type} {room : Nat} {c : Codec α} {js js' : List Json},
    VariantItems room c js js' → ∀ {as : List α}, c.decodeItems room js = .ok as → c.decodeItems room js' = .ok as
  | _, _, _, _, _, .nil, _, read => read
  | _, _, _, _, _, .cons h rest, _, read => by
    obtain ⟨a, first, read⟩ := Decoded.bind_eq_ok.mp read
    obtain ⟨as, others, read⟩ := Decoded.bind_eq_ok.mp read
    exact Decoded.bind_eq_ok.mpr ⟨a, h.decode first, Decoded.bind_eq_ok.mpr ⟨as, rest.decode others, read⟩⟩

theorem VariantMembers.decode : ∀ {σ : Type} {room : Nat} {r : Record σ} {ms ms' : List (Option String × Json)},
    VariantMembers room r ms ms' → ∀ {seen : List String} {s s' : σ},
    r.decodeMembers room ms seen s = .ok s' → r.decodeMembers room ms' seen s = .ok s'
  | _, _, _, _, _, .nil, _, _, _, read => read
  | _, _, r, _, _, @VariantMembers.unknown _ _ _ k _ _ _ stranger whole rest, _, _, _, read => by
    have none : r.fields.find? (fun f => f.name = k) = none := by
      rw [List.find?_eq_none]
      intro f mem same
      exact stranger (List.mem_map.mpr ⟨f, mem, by simpa using same⟩)
    exact (Record.decodeMembers_unknown none).mpr ⟨whole, rest.decode read⟩
  | _, _, r, _, _, @VariantMembers.same _ _ _ (key, j) _ _ rest, _, _, _, read => by
    cases key with
    | none => cases read
    | some k =>
      cases found : r.fields.find? fun f => f.name = k with
      | none =>
        obtain ⟨whole, read⟩ := (Record.decodeMembers_unknown found).mp read
        exact (Record.decodeMembers_unknown found).mpr ⟨whole, rest.decode read⟩
      | some f =>
        obtain ⟨new, t, first, read⟩ := (Record.decodeMembers_field found).mp read
        exact (Record.decodeMembers_field found).mpr ⟨new, t, first, rest.decode read⟩
  | _, _, _, _, _, .field found h rest, _, _, _, read => by
    obtain ⟨new, t, first, read⟩ := (Record.decodeMembers_field found).mp read
    exact (Record.decodeMembers_field found).mpr ⟨new, t, h.decode first, rest.decode read⟩

theorem VariantField.decode : ∀ {σ : Type} {room : Nat} {f : Field σ} {j j' : Json}, VariantField room f j j' →
    ∀ {s s' : σ}, f.decode room j s = .ok s' → f.decode room j' s = .ok s'
  | _, _, _, _, _, .of h, _, _, read => by
    obtain ⟨a, read, set⟩ := Decoded.map_eq_ok.mp read
    exact Decoded.map_eq_ok.mpr ⟨a, h.decode read, set⟩
  | _, _, _, _, _, .must h, _, _, read => h.decode read
  | _, _, _, _, _, .optional h, _, _, read => by
    obtain ⟨a, read, set⟩ := Decoded.map_eq_ok.mp read
    exact Decoded.map_eq_ok.mpr ⟨a, h.decode read, set⟩

end

end ClusterVolumes
