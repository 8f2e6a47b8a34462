import ClusterVolumes.Proofs.Text.ByteOrder
import Mathlib.Data.List.Sort

/-!
# What comes first by its name

To sort by names is to sort by insertion, by the bytes of the names (`FileName.rising_eq_insertionSort`). So texts that
are names stand in rising order (`FileName.pairwise_rising`), and what is met first behind them is met behind the least
text behind which anything is (`FileName.findSome?_rising`). The first text is the least one (`FileName.head?_rising`).
-/

namespace ClusterVolumes.FileName

theorem rising_eq_insertionSort {α : Type} (names : α → List FileName) (l : List α) :
    rising names l = l.insertionSort fun a b => (names a).map written ≤ (names b).map written := by
  have inserted (a : α) (l : List α) :
      insert (fun a b => decide ((names a).map written ≤ (names b).map written)) a l =
        l.orderedInsert (fun a b => (names a).map written ≤ (names b).map written) a := by
    induction l with
    | nil => rfl
    | cons b l ih => simp only [insert, decide_eq_true_eq, ih, List.orderedInsert_cons]
  induction l with
  | nil => rfl
  | cons a l ih =>
    rw [List.insertionSort_cons, ← ih]
    exact inserted a _

/-- Names that are texts are compared by the bytes of the texts. -/
theorem written_le_iff {a b : String} :
    List.map written [.text a] ≤ List.map written [.text b] ↔ Text.bytes a ≤ Text.bytes b := by
  simp only [List.map_cons, List.map_nil, written, List.cons_le_cons_iff, List.le_refl, and_true]
  exact List.le_iff_lt_or_eq.symm

variable {texts : List String}

theorem mem_rising {text : String} : text ∈ rising (fun text => [.text text]) texts ↔ text ∈ texts := by
  rw [rising_eq_insertionSort, List.mem_insertionSort]

theorem pairwise_rising (texts : List String) :
    (rising (fun text => [.text text]) texts).Pairwise fun a b => Text.bytes a ≤ Text.bytes b := by
  rw [rising_eq_insertionSort]
  simp only [written_le_iff]
  exact List.pairwise_insertionSort (fun a b : String => Text.bytes a ≤ Text.bytes b) texts

/-- In rising order what is met first is met behind the least text behind which anything is. -/
theorem findSome?_of_pairwise {β : Type} {f : String → Option β} {b : β}
    (sorted : texts.Pairwise fun a b => Text.bytes a ≤ Text.bytes b) :
    texts.findSome? f = some b ↔
      ∃ text ∈ texts, f text = some b ∧ ∀ other ∈ texts, (f other).isSome = true → Text.bytes text ≤ Text.bytes other := by
  induction texts with
  | nil => simp
  | cons first rest ih =>
    obtain ⟨below, sorted⟩ := List.pairwise_cons.mp sorted
    rw [List.findSome?_cons]
    cases here : f first with
    | none => simpa [here] using ih sorted
    | some c =>
      constructor
      · rintro ⟨⟩
        refine ⟨first, List.mem_cons_self, here, fun other mem _ => ?_⟩
        rcases List.mem_cons.mp mem with rfl | later
        · exact List.le_refl _
        · exact below other later
      · rintro ⟨text, mem, met, least⟩
        rcases List.mem_cons.mp mem with rfl | later
        · exact here.symm.trans met
        · have lower := Text.bytes_le_iff.mp (least first List.mem_cons_self (by rw [here]; rfl))
          obtain rfl : text = first := String.le_antisymm lower (Text.bytes_le_iff.mp (below text later))
          exact here.symm.trans met

/-- Texts are sorted, and what is met first is met behind the least one behind which anything is. -/
theorem findSome?_rising {β : Type} {f : String → Option β} {b : β} :
    (rising (fun text => [.text text]) texts).findSome? f = some b ↔
      ∃ text ∈ texts, f text = some b ∧ ∀ other ∈ texts, (f other).isSome = true → Text.bytes text ≤ Text.bytes other := by
  simp only [findSome?_of_pairwise (pairwise_rising texts), mem_rising]

/-- The first of the sorted texts is the least one. -/
theorem head?_rising {text : String} :
    (rising (fun text => [.text text]) texts).head? = some text ↔
      text ∈ texts ∧ ∀ other ∈ texts, Text.bytes text ≤ Text.bytes other := by
  have first (l : List String) : l.head? = l.findSome? some := by cases l <;> rfl
  rw [first, findSome?_rising]
  simp

end ClusterVolumes.FileName
