import ChangeDesk.SortedMap
import Mathlib.Data.List.Sort

/-!
Sorted maps from lists and back. A list whose keys increase is the entries of the map that it gives; of any list
the map has the last value of each key. The entries of a map are its keys with what they stand for.
-/
namespace ChangeDesk.SortedMap

variable {α : Type} {key k : String} {value v : α} {l : List (String × α)}

theorem insertEntry_of_forall_lt (h : ∀ e ∈ l, e.1 < key) :
    insertEntry key value l = l ++ [(key, value)] := by
  induction l with
  | nil => rfl
  | cons p rest ih =>
    obtain ⟨hlt, hrest⟩ := List.forall_mem_cons.1 h
    have hne : key ≠ p.1 := by
      intro he
      rw [he] at hlt
      exact String.lt_irrefl _ hlt
    have hasymm : ¬ key < p.1 := fun hgt => String.lt_irrefl _ (String.lt_trans hlt hgt)
    rw [insertEntry, if_neg hasymm, if_neg hne, ih hrest]
    rfl

/-- Pairs behind all entries, in increasing order, become the last entries. -/
theorem entries_foldl_insert (m : SortedMap α) (h : (m.entries ++ l).Pairwise (fun a b => a.1 < b.1)) :
    (l.foldl (fun m e => m.insert e.1 e.2) m).entries = m.entries ++ l := by
  induction l generalizing m with
  | nil => simp
  | cons e rest ih =>
    have hentries : (m.insert e.1 e.2).entries = m.entries ++ [e] :=
      insertEntry_of_forall_lt fun d hd => (List.pairwise_append.1 h).2.2 d hd e List.mem_cons_self
    rw [List.foldl_cons, ih _ (by rw [hentries, List.append_assoc]; exact h), hentries, List.append_assoc]
    rfl

/-- A list with increasing keys is the entries of its map. -/
theorem entries_ofList (h : l.Pairwise (fun a b => a.1 < b.1)) : (ofList l).entries = l :=
  entries_foldl_insert empty h

/-- Of each key the last pair counts. -/
theorem get?_ofList (l : List (String × α)) (k : String) : (ofList l).get? k = l.reverse.lookup k := by
  have hfold (m : SortedMap α) : (l.foldl (fun m e => m.insert e.1 e.2) m).get? k =
      (l.reverse.lookup k).or (m.get? k) := by
    induction l generalizing m with
    | nil => rfl
    | cons e rest ih =>
      rw [List.foldl_cons, ih, get?_insert, List.reverse_cons, List.lookup_append, Option.or_assoc,
        lookup_cons_eq]
      by_cases hk : k = e.1 <;> simp [hk]
  rw [ofList, hfold]
  simp

/-- The entries are the keys with what they stand for. -/
theorem mem_entries_iff (m : SortedMap α) : (k, v) ∈ m.entries ↔ m.get? k = some v := by
  obtain ⟨l, hl⟩ := m
  change (k, v) ∈ l ↔ l.lookup k = some v
  induction l with
  | nil => simp
  | cons p rest ih =>
    obtain ⟨key, value⟩ := p
    obtain ⟨hlt, hrest⟩ := List.pairwise_cons.1 hl
    rw [lookup_cons_eq, List.mem_cons, ih hrest, Prod.mk.injEq]
    by_cases hk : k = key
    · subst hk
      have hnone : rest.lookup k ≠ some v := fun h =>
        String.lt_irrefl _ (hlt (k, v) ((ih hrest).2 h))
      simp [hnone, eq_comm]
    · simp [hk]

/-! ## Equal maps -/

variable {m n : SortedMap α}

theorem eq_of_entries_eq (h : m.entries = n.entries) : m = n := by
  cases m
  cases n
  simpa using h

/-- A map is the one of its entries. -/
theorem ofList_entries (m : SortedMap α) : ofList m.entries = m := eq_of_entries_eq (entries_ofList m.sorted)

/-- Maps with the same values under all keys are the same. -/
theorem eq_of_get?_eq (h : ∀ k, m.get? k = n.get? k) : m = n := by
  have hirrefl : Std.Irrefl fun a b : String × α => a.1 < b.1 := ⟨fun a => String.lt_irrefl a.1⟩
  have hantisymm : Std.Antisymm fun a b : String × α => a.1 < b.1 :=
    ⟨fun a _ hab hba => absurd (String.lt_trans hab hba) (String.lt_irrefl a.1)⟩
  refine eq_of_entries_eq (m.sorted.eq_of_mem_iff n.sorted fun (k, v) => ?_)
  rw [mem_entries_iff, mem_entries_iff, h]

/-- An entry that is filtered out again makes no difference. -/
theorem filterKeys_insert (m : SortedMap α) {keep : String → Bool} (value : α) (h : keep key = false) :
    (m.insert key value).filterKeys keep = m.filterKeys keep := by
  refine eq_of_get?_eq fun k => ?_
  rw [get?_filterKeys, get?_filterKeys, get?_insert]
  by_cases hk : k = key <;> simp [hk, h]

/-- Entering what is there already changes nothing. -/
theorem insert_eq_self {key : String} {v : α} (h : m.get? key = some v) : m.insert key v = m := by
  refine eq_of_get?_eq fun k => ?_
  rw [get?_insert]
  split
  · rename_i hk
    rw [hk, h]
  · rfl

end ChangeDesk.SortedMap
