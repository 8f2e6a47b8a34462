import ClusterVolumes.Json.Codec
import ClusterVolumes.Proofs.Json.RoundTrip

/-!
# Codecs that read what they write

A codec is `Faithful` if it writes plain JSON and reads that as the value that was written. There is a rule for each way
to build a codec. A list or an object takes up room, so each rule says for how much room it holds.

A structure is faithful if reading its fields in turn restores the value that they were written from, whatever the
reading starts with (`RestoresAll`), and no two fields have the same name.
-/

namespace ClusterVolumes

variable {α β σ : Type}

namespace Decoded

theorem map_eq_ok {x : Decoded α} {f : α → β} {b : β} : x.map f = .ok b ↔ ∃ a, x = .ok a ∧ f a = b := by
  cases x <;> simp [Except.map]

theorem bind_eq_ok {x : Decoded α} {f : α → Decoded β} {b : β} : x >>= f = .ok b ↔ ∃ a, x = .ok a ∧ f a = .ok b := by
  cases x <;> simp [bind, Except.bind]

end Decoded

/-- A text that is one value is read as that value is. -/
theorem Codec.ofText_of_parse? {c : Codec α} {s : String} {j : Json} (h : Json.parse? s = some j) :
    c.ofText s = c.decode maxDepth j := by
  unfold Json.parse? at h
  split at h
  · rename_i read
    split at h
    · cases h
      unfold ofText
      rw [read]
      dsimp only
      cases c.decode maxDepth j <;> rfl
    · cases h
  · cases h

/-- What is read from a text is read from the value at its start, and nothing follows that. -/
theorem Codec.readAll_of_ofText {c : Codec α} {s : String} {a : α} (read : c.ofText s = .ok a) :
    ∃ j, Json.readAll s = (j, true) ∧ c.decode maxDepth j = .ok a := by
  unfold ofText at read
  cases value : Json.readAll s with
  | mk j ended =>
    rw [value] at read
    obtain ⟨a', first, rest⟩ := Decoded.bind_eq_ok.mp read
    cases ended with
    | false => cases rest
    | true =>
      cases rest
      exact ⟨j, rfl, first⟩

/-- The codec writes plain JSON, and with so much room it reads what it writes. -/
structure Codec.Faithful (c : Codec α) (room : Nat) : Prop where
  plain : ∀ a, (c.encode a).isPlain = true
  decode : ∀ a, c.decode room (c.encode a) = .ok a

namespace Codec

variable {room : Nat}

/-! ## Simple values -/

theorem bool_faithful : bool.Faithful room :=
  ⟨fun _ => rfl, fun _ => rfl⟩

theorem text_faithful : text.Faithful room :=
  ⟨fun _ => rfl, fun _ => rfl⟩

theorem natUpTo_decode {limit n : Nat} (h : n ≤ limit) : (natUpTo limit).decode room (.nat n) = .ok n :=
  if_pos h

theorem word64_faithful : word64.Faithful room where
  plain _ := rfl
  decode n := by
    show ((natUpTo (UInt64.size - 1)).decode room (.nat n.toNat)).map UInt64.ofNat = .ok n
    rw [natUpTo_decode (Nat.le_sub_one_of_lt n.toNat_lt_size), Except.map, UInt64.ofNat_toNat]

theorem word32_faithful : word32.Faithful room where
  plain _ := rfl
  decode n := by
    show ((natUpTo (UInt32.size - 1)).decode room (.nat n.toNat)).map UInt32.ofNat = .ok n
    rw [natUpTo_decode (Nat.le_sub_one_of_lt n.toNat_lt_size), Except.map, UInt32.ofNat_toNat]

theorem option_decode {c : Codec α} {j : Json} (present : j ≠ .null) :
    c.option.decode room j = (c.decode room j).map some := by
  simp only [option]

/-- What may be missing is read if it is never written as null. -/
theorem Faithful.option {c : Codec α} (h : c.Faithful room) (present : ∀ a, c.encode a ≠ .null) :
    c.option.Faithful room where
  plain
    | none => rfl
    | some a => h.plain a
  decode
    | none => rfl
    | some a => (option_decode (present a)).trans (by rw [h.decode a, Except.map])

/-- One of finitely many constants is read if its name is its own. -/
theorem constant_faithful [DecidableEq α] {names : List (α × String)}
    (h : ∀ a, ∃ s, (constant names).encode a = Json.text s ∧ constant.named names s = .ok a) :
    (constant names).Faithful room where
  plain _ := rfl
  decode a := by
    obtain ⟨s, written, read⟩ := h a
    rw [written]
    exact read

/-! ## Lists and maps -/

theorem itemsPlain_map {c : Codec α} (h : c.Faithful room) : ∀ as : List α, Json.itemsPlain (as.map c.encode) = true
  | [] => rfl
  | a :: as => by
    rw [List.map_cons, Json.itemsPlain, h.plain a, itemsPlain_map h as]
    rfl

theorem decodeItems_map {c : Codec α} (h : c.Faithful room) :
    ∀ as : List α, decodeItems c room (as.map c.encode) = .ok as
  | [] => rfl
  | a :: as => by
    rw [List.map_cons, decodeItems, h.decode a, decodeItems_map h as]
    rfl

theorem Faithful.list {c : Codec α} (h : c.Faithful room) : c.list.Faithful (room + 1) :=
  ⟨itemsPlain_map h, decodeItems_map h⟩

/-- The members of an object of texts. -/
def textMembers (l : List (String × String)) : List (Option String × Json) :=
  l.map fun e => (some e.1, Json.text e.2)

theorem membersPlain_textMembers : ∀ l : List (String × String), Json.membersPlain (textMembers l) = true
  | [] => rfl
  | _ :: l => membersPlain_textMembers l

/-- A key behind all others is put in at the end. -/
theorem insertEntry_last {key value : String} : ∀ {l : List (String × String)}, (∀ e ∈ l, e.1 < key) →
    TextMap.insertEntry key value l = l ++ [(key, value)]
  | [], _ => rfl
  | e :: l, h => by
    have behind : e.1 < key := h e List.mem_cons_self
    have ne : key ≠ e.1 := by
      rintro rfl
      exact String.lt_irrefl _ behind
    rw [TextMap.insertEntry, if_neg (String.lt_asymm behind), if_neg ne,
      insertEntry_last fun e' mem => h e' (List.mem_cons_of_mem e mem)]
    rfl

/-- Entries in rising order are put in behind those that are there. -/
theorem decodeEntries_textMembers : ∀ {l : List (String × String)} {m : StringMap},
    (m.entries ++ l).Pairwise (fun a b => a.1 < b.1) →
    ∃ m' : StringMap, decodeEntries text room (fun k v m => m.insert k v) (textMembers l) m = .ok m' ∧
      m'.entries = m.entries ++ l
  | [], m, _ => ⟨m, rfl, (List.append_nil _).symm⟩
  | e :: l, m, h => by
    have behind : ∀ e' ∈ m.entries, e'.1 < e.1 :=
      fun e' mem => (List.pairwise_append.mp h).2.2 e' mem e List.mem_cons_self
    have put : (m.insert e.1 e.2).entries = m.entries ++ [e] := insertEntry_last behind
    have rest : ((m.insert e.1 e.2).entries ++ l).Pairwise fun a b => a.1 < b.1 := by
      rw [put, List.append_assoc]
      exact h
    obtain ⟨m', read, entries⟩ := decodeEntries_textMembers rest
    exact ⟨m', read, by rw [entries, put, List.append_assoc]; rfl⟩

theorem stringMap_faithful : stringMap.Faithful (room + 1) := by
  have written (m : StringMap) : stringMap.encode m = .obj (textMembers m.entries) := by
    simp [stringMap, Json.record, textMembers, Function.comp_def]
  refine ⟨fun m => ?_, fun m => ?_⟩
  · rw [written]
    exact membersPlain_textMembers m.entries
  · obtain ⟨m', read, same⟩ := decodeEntries_textMembers (m := ∅) m.sorted
    obtain rfl : m' = m := by
      cases m
      cases m'
      cases same
      rfl
    rw [written]
    exact read

end Codec

/-! ## Structures -/

/-- To read what is written for a field of `v` makes `s'` of `s`, and so does to leave it out if nothing is written. -/
def Field.Restores (f : Field σ) (room : Nat) (v s s' : σ) : Prop :=
  match f.encode v with
  | some j => j.isPlain = true ∧ f.decode room j s = .ok s'
  | none => f.required = false ∧ s' = s

/-- To read what is written for some fields of `v` in turn makes `s'` of `s`. -/
inductive RestoresAll (room : Nat) (v : σ) : List (Field σ) → σ → σ → Prop
  | nil {s : σ} : RestoresAll room v [] s s
  | cons {f : Field σ} {fs : List (Field σ)} {s s' s'' : σ} :
      f.Restores room v s s' → RestoresAll room v fs s' s'' → RestoresAll room v (f :: fs) s s''

namespace Field

variable {room : Nat} {name : String} {c : Codec α} {v s s' : σ}

/-- A part that is always written is set to what it was. -/
theorem restores_of {get : σ → α} {set : α → σ → σ} (h : c.Faithful room) :
    (Field.of name c get set).Restores room v s (set (get v) s) :=
  ⟨h.plain (get v), by simp only [Field.of, h.decode, Except.map]⟩

theorem restores_must {f : Field σ} {j : Json} (written : f.encode v = some j) (h : f.Restores room v s s') :
    f.must.Restores room v s s' := by
  unfold Restores at h ⊢
  rw [written] at h
  rw [show f.must.encode v = some j from written]
  exact h

/-- A part that may be left out is set to what it was. -/
theorem restores_optional {get : σ → Option α} {set : Option α → σ → σ} (h : c.Faithful room)
    (present : ∀ a, c.encode a ≠ .null) (start : set none s = s) :
    (Field.optional name c get set).Restores room v s (set (get v) s) := by
  unfold Restores
  cases e : get v with
  | none =>
    rw [show (Field.optional name c get set).encode v = none by simp [Field.optional, e]]
    exact ⟨rfl, start⟩
  | some a =>
    rw [show (Field.optional name c get set).encode v = some (c.encode a) by simp [Field.optional, e]]
    have read : c.option.decode room (c.encode a) = .ok (some a) := (h.option present).decode (some a)
    exact ⟨h.plain a, by simp only [Field.optional, read, Except.map]⟩

end Field

namespace RestoresAll

variable {room : Nat} {name : String} {c : Codec α} {get : σ → α} {set : α → σ → σ} {fs : List (Field σ)}
  {v s s' : σ}

theorem of (h : c.Faithful room) (rest : RestoresAll room v fs (set (get v) s) s') :
    RestoresAll room v (.of name c get set :: fs) s s' :=
  .cons (Field.restores_of h) rest

theorem must (h : c.Faithful room) (rest : RestoresAll room v fs (set (get v) s) s') :
    RestoresAll room v ((Field.of name c get set).must :: fs) s s' :=
  .cons (Field.restores_must rfl (Field.restores_of h)) rest

theorem optional {get : σ → Option α} {set : Option α → σ → σ} (h : c.Faithful room)
    (present : ∀ a, c.encode a ≠ .null) (start : set none s = s) (rest : RestoresAll room v fs (set (get v) s) s') :
    RestoresAll room v (.optional name c get set :: fs) s s' :=
  .cons (Field.restores_optional h present start) rest

end RestoresAll

namespace Record

variable {r : Record σ} {room : Nat} {v : σ}

/-- The members that are written for some fields. -/
def written (v : σ) (fs : List (Field σ)) : List (Option String × Json) :=
  fs.filterMap fun f => (f.encode v).map fun j => (some f.name, j)

theorem written_cons {f : Field σ} {fs : List (Field σ)} :
    written v (f :: fs) = ((f.encode v).map fun j => (some f.name, j)).toList ++ written v fs := by
  unfold written
  rw [List.filterMap_cons]
  cases f.encode v <;> rfl

theorem encode_eq : r.codec.encode v = .obj (written v r.fields) := by
  simp [codec, members, Json.record, written, List.map_filterMap, Function.comp_def]

theorem membersPlain_written {fs : List (Field σ)} {s s' : σ} (h : RestoresAll room v fs s s') :
    Json.membersPlain (written v fs) = true := by
  induction h with
  | nil => rfl
  | @cons f fs s s' s'' restores _ ih =>
    rw [written_cons]
    unfold Field.Restores at restores
    cases e : f.encode v with
    | none => exact ih
    | some j =>
      rw [e] at restores
      show (true && j.isPlain && Json.membersPlain (written v fs)) = true
      rw [restores.1, ih]
      rfl

/-- A field is found by its name. -/
theorem find?_field {f : Field σ} : ∀ {fs : List (Field σ)}, (fs.map Field.name).Nodup → f ∈ fs →
    fs.find? (fun g => g.name = f.name) = some f
  | g :: fs, distinct, mem => by
    rw [List.map_cons, List.nodup_cons] at distinct
    rcases List.mem_cons.mp mem with rfl | mem
    · exact List.find?_cons_of_pos (by simp)
    · have other : g.name ≠ f.name := fun same => distinct.1 (same ▸ List.mem_map_of_mem mem)
      rw [List.find?_cons_of_neg (by simpa using other)]
      exact find?_field distinct.2 mem

/-- A member of a field is read into the structure unless it is repeated. -/
theorem decodeMembers_field {f : Field σ} {k : String} (found : r.fields.find? (fun g => g.name = k) = some f)
    {j : Json} {ms : List (Option String × Json)} {seen : List String} {s s' : σ} :
    decodeMembers r room ((some k, j) :: ms) seen s = .ok s' ↔
      k ∉ seen ∧ ∃ t, f.decode room j s = .ok t ∧ decodeMembers r room ms (k :: seen) t = .ok s' := by
  rw [decodeMembers, found]
  dsimp only
  split
  · rename_i met
    exact ⟨nofun, fun h => absurd (List.contains_iff_mem.mp met) h.1⟩
  · rename_i new
    rw [Decoded.bind_eq_ok]
    exact ⟨fun h => ⟨mt List.contains_iff_mem.mpr new, h⟩, And.right⟩

/-- A member with an unknown key is left out unless it is broken. -/
theorem decodeMembers_unknown {k : String} (unknown : r.fields.find? (fun g => g.name = k) = none) {j : Json}
    {ms : List (Option String × Json)} {seen : List String} {s s' : σ} :
    decodeMembers r room ((some k, j) :: ms) seen s = .ok s' ↔
      j.isIntact = true ∧ decodeMembers r room ms seen s = .ok s' := by
  rw [decodeMembers, unknown]
  dsimp only
  split
  · rename_i whole
    exact ⟨fun h => ⟨whole, h⟩, And.right⟩
  · rename_i broken
    exact ⟨nofun, fun h => absurd h.1 broken⟩

/-- Behind the fields that were met, the members that are written for the others restore the structure. The induction
is on these others; of those before them, all that must not be missing were met. -/
theorem decodeMembers_written {fs : List (Field σ)} {s s' : σ} (h : RestoresAll room v fs s s')
    (distinct : (r.fields.map Field.name).Nodup) {before : List (Field σ)} (all : r.fields = before ++ fs)
    {seen : List String} (met : ∀ f ∈ before, f.required = true → f.name ∈ seen)
    (ahead : ∀ f ∈ fs, f.name ∉ seen) : decodeMembers r room (written v fs) seen s = .ok s' := by
  induction h generalizing before seen with
  | nil =>
    rw [List.append_nil] at all
    have complete : (r.fields.all fun f => !f.required || seen.contains f.name) = true := by
      rw [List.all_eq_true]
      intro f mem
      rw [all] at mem
      cases needed : f.required with
      | false => rfl
      | true => simpa using met f mem needed
    exact if_pos complete
  | @cons f fs s s' s'' restores _ ih =>
    have all' : r.fields = before ++ [f] ++ fs := by rw [all, List.append_assoc]; rfl
    have apart : ∀ f' ∈ fs, f'.name ≠ f.name := by
      rw [all, List.map_append, List.map_cons, List.nodup_append] at distinct
      exact fun f' mem same => (List.nodup_cons.mp distinct.2.1).1 (same ▸ List.mem_map_of_mem mem)
    rw [written_cons]
    unfold Field.Restores at restores
    cases e : f.encode v with
    | none =>
      -- nothing is written for the field, so no member is read, and it need not be met
      rw [e] at restores
      obtain ⟨free, rfl⟩ := restores
      refine ih all' (fun f' mem needed => ?_) fun f' mem => ahead f' (List.mem_cons_of_mem f mem)
      rcases List.mem_append.mp mem with mem | mem
      · exact met f' mem needed
      · obtain rfl := List.mem_singleton.mp mem
        rw [free] at needed
        cases needed
    | some j =>
      rw [e] at restores
      have found := find?_field distinct (f := f) (by simp [all])
      refine (decodeMembers_field found).mpr ⟨ahead f List.mem_cons_self, s', restores.2, ?_⟩
      refine ih all' (fun f' mem needed => ?_) fun f' mem => ?_
      · rcases List.mem_append.mp mem with mem | mem
        · exact List.mem_cons_of_mem _ (met f' mem needed)
        · obtain rfl := List.mem_singleton.mp mem
          exact List.mem_cons_self
      · rw [List.mem_cons, not_or]
        exact ⟨apart f' mem, ahead f' (List.mem_cons_of_mem f mem)⟩

/-- **A structure is faithful if its fields restore it.** -/
theorem codec_faithful (distinct : (r.fields.map Field.name).Nodup)
    (restores : ∀ v, RestoresAll room v r.fields r.start v) : r.codec.Faithful (room + 1) where
  plain v := by
    rw [encode_eq]
    exact membersPlain_written (restores v)
  decode v := by
    rw [encode_eq]
    exact decodeMembers_written (restores v) distinct (List.nil_append r.fields).symm nofun nofun

/-- No structure is written as null. -/
theorem encode_ne_null (v : σ) : r.codec.encode v ≠ .null :=
  nofun

end Record

end ClusterVolumes
