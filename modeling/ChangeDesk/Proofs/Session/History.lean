import ChangeDesk.Proofs.Session.Values
import ChangeDesk.Proofs.SortedMap
import ChangeDesk.Proofs.Text.Utf8

/-!
The session store after any operations on it. It holds for each key the text that was last put there, unless it
was cleared since. Each operation keeps that up, so that it holds after all of them, and everything that can be
asked of the store follows.
-/
namespace ChangeDesk.Session

inductive Operation where
  | put (key : String) (v : Json)
  | clear (key : String)
  | clearAll
  | recordAttempt (feature : String) (time : Timestamp)
  | clearAttempt (feature : String)

namespace Operation

def perform (s : Session) : Operation → Except SessionError Session
  | .put key v => s.put key v
  | .clear key => (s.clear key).map (·.2)
  | .clearAll => s.clearAll.map (·.2)
  | .recordAttempt feature time => s.recordAttempt feature time
  | .clearAttempt feature => (s.clearAttempt feature).map (·.2)

/-- What an operation leaves under a key, a text or nothing, if it acts on this key at all. -/
def leaves? (key : String) : Operation → Option (Option String)
  | .put other v => if key = other then some (some v.compact) else none
  | .clear other => if key = other then some none else none
  | .clearAll => some none
  | .recordAttempt feature time =>
    if key = attemptKey feature then some (some (Json.string time.write).compact) else none
  | .clearAttempt feature => if key = attemptKey feature then some none else none

end Operation

def performAll (s : Session) (ops : List Operation) : Except SessionError Session :=
  ops.foldlM Operation.perform s

/-- The text under a key after operations on an empty store: what the last operation on this key leaves. -/
def lastText (ops : List Operation) (key : String) : Option String :=
  (ops.reverse.findSome? fun op => op.leaves? key).getD none

/-- A key that is put again after it was cleared has the text put last, whatever is done to other keys. -/
example : lastText [.put "a" (.bool true), .clear "a", .put "a" .null, .clear "b"] "a" = some "null" := by decide

def Holds (s : Session) (texts : String → Option String) : Prop :=
  ∃ t, s.table = some t ∧ ∀ key, t.get? key = (texts key).map .text

/-- What can be seen of a store with given texts. -/
structure Shows (s : Session) (texts : String → Option String) : Prop where
  /-- A key is read from its own text. -/
  read {α : Type} (key : String) (reader : String → Option α) :
    s.read key reader = readText key reader (texts key)
  /-- Each key with a text is listed once, in the order of the bytes, and all that are listed are cleared. -/
  entries : ∃ l, s.entries = .ok l ∧ l.Pairwise (fun a b => Text.Utf8.encode a.1 < Text.Utf8.encode b.1) ∧
    (∀ key text, (key, text) ∈ l ↔ texts key = some text) ∧ s.clearAll = .ok (l.length, empty)
  /-- Clearing says whether there was an entry. -/
  clear (key : String) : (s.clear key).map (·.1) = .ok (texts key).isSome
  clearAttempt (feature : String) :
    (s.clearAttempt feature).map (·.1) = .ok (texts (feature ++ ":last-attempt")).isSome
  /-- Noting and forgetting attempts leaves what is stored under other keys. -/
  attempts (feature : String) (time : Timestamp) : ∃ noted forgotten,
    s.recordAttempt feature time = .ok noted ∧ (s.clearAttempt feature).map (·.2) = .ok forgotten ∧
      ∀ key, key ≠ feature ++ ":last-attempt" →
        noted.text? key = s.text? key ∧ forgotten.text? key = s.text? key

variable {s : Session} {texts : String → Option String} {ops : List Operation} {key : String}

/-! ## What an operation does -/

theorem holds_empty : empty.Holds fun _ => none := ⟨.empty, rfl, fun _ => rfl⟩

theorem Holds.put (h : s.Holds texts) (key : String) (v : Json) :
    ∃ s', s.put key v = .ok s' ∧ s'.Holds fun k => if k = key then some v.compact else texts k := by
  obtain ⟨t, ht, hget⟩ := h
  refine ⟨⟨some (t.insert key (.text v.compact))⟩, ?_, _, rfl, fun k => ?_⟩
  · rw [Session.put, store, withTable, ht]
  · rw [SortedMap.get?_insert, hget]
    by_cases hk : k = key <;> simp [hk]

theorem Holds.clear (h : s.Holds texts) (key : String) :
    ∃ s', s.clear key = .ok ((texts key).isSome, s') ∧
      s'.Holds fun k => if k = key then none else texts k := by
  obtain ⟨t, ht, hget⟩ := h
  have hcontains : t.contains key = (texts key).isSome := by rw [SortedMap.contains, hget, Option.isSome_map]
  refine ⟨⟨some (t.erase key)⟩, by rw [Session.clear, withTable, ht, ← hcontains], _, rfl, fun k => ?_⟩
  rw [SortedMap.get?_erase, hget]
  by_cases hk : k = key <;> simp [hk]

theorem getD_ite (k key : String) (left text : Option String) :
    (if k = key then some left else none).getD text = if k = key then left else text := by
  by_cases h : k = key <;> simp [h]

/-- An operation succeeds, and leaves what it does not act on. -/
theorem Holds.perform (h : s.Holds texts) (op : Operation) :
    ∃ s', op.perform s = .ok s' ∧ s'.Holds fun key => (op.leaves? key).getD (texts key) := by
  cases op with
  | put other v =>
    obtain ⟨s', hput, hs'⟩ := h.put other v
    exact ⟨s', hput, by simpa only [Operation.leaves?, getD_ite] using hs'⟩
  | clear other =>
    obtain ⟨s', hclear, hs'⟩ := h.clear other
    exact ⟨s', by rw [Operation.perform, hclear]; rfl, by simpa only [Operation.leaves?, getD_ite] using hs'⟩
  | clearAll =>
    obtain ⟨t, ht, -⟩ := h
    exact ⟨empty, by rw [Operation.perform, clearAll, withTable, ht]; rfl, holds_empty⟩
  | recordAttempt feature time =>
    obtain ⟨s', hput, hs'⟩ := h.put (attemptKey feature) (.string time.write)
    exact ⟨s', hput, by simpa only [Operation.leaves?, getD_ite] using hs'⟩
  | clearAttempt feature =>
    obtain ⟨s', hclear, hs'⟩ := h.clear (attemptKey feature)
    exact ⟨s', by rw [Operation.perform, clearAttempt, hclear]; rfl,
      by simpa only [Operation.leaves?, getD_ite] using hs'⟩

/-- So do any operations; under each key the last one on it counts. -/
theorem Holds.performAll (h : s.Holds texts) (ops : List Operation) :
    ∃ s', s.performAll ops = .ok s' ∧
      s'.Holds fun key => (ops.reverse.findSome? fun op => op.leaves? key).getD (texts key) := by
  induction ops generalizing s texts with
  | nil => exact ⟨s, rfl, h⟩
  | cons op rest ih =>
    obtain ⟨s₁, hop, h₁⟩ := h.perform op
    obtain ⟨s', hrest, h'⟩ := ih h₁
    refine ⟨s', by rw [Session.performAll, List.foldlM_cons, hop]; exact hrest, ?_⟩
    convert h' using 2 with key
    rw [List.reverse_cons, List.findSome?_append]
    cases rest.reverse.findSome? (fun op => op.leaves? key) <;> simp

/-! ## What can be asked -/

theorem Holds.text? (h : s.Holds texts) (key : String) : s.text? key = .ok (texts key) := by
  obtain ⟨t, ht, hget⟩ := h
  obtain ⟨table⟩ := s
  subst ht
  exact text?_of_get? (hget key)

/-- A table of texts is a list of texts with their keys. -/
theorem exists_texts {t : SortedMap Stored} (hget : ∀ key, t.get? key = (texts key).map .text) :
    ∃ l : List (String × String), t.entries = l.map fun e => (e.1, .text e.2) := by
  refine ⟨t.entries.map fun e => (e.1, (texts e.1).getD ""), ?_⟩
  have hentry (e : String × Stored) (he : e ∈ t.entries) : (e.1, .text ((texts e.1).getD "")) = e := by
    obtain ⟨key, v⟩ := e
    have hv : (texts key).map .text = some v := by rw [← hget, ← SortedMap.mem_entries_iff]; exact he
    cases htext : texts key with
    | none => simp [htext] at hv
    | some text => simpa [htext] using hv
  rw [List.map_map]
  exact ((List.map_congr_left hentry).trans (List.map_id _)).symm

/-- The entries are listed in the order of their keys, each key that has a text once. -/
theorem Holds.entries (h : s.Holds texts) :
    ∃ l, s.entries = .ok l ∧ l.Pairwise (fun a b => a.1 < b.1) ∧
      (∀ key text, (key, text) ∈ l ↔ texts key = some text) ∧ s.clearAll = .ok (l.length, empty) := by
  obtain ⟨t, ht, hget⟩ := h
  obtain ⟨l, hl⟩ := exists_texts hget
  have hread : t.entries.mapM (fun e => (Stored.text? e.2).map fun text => (e.1, text)) = some l := by
    rw [hl, List.mapM_map]
    exact (List.mapM_pure (m := Option) (f := id)).trans (by simp)
  refine ⟨l, ?_, ?_, fun key text => ?_, ?_⟩
  · simp only [Session.entries, withTable, ht, hread]
  · simpa only [hl, List.pairwise_map] using t.sorted
  · have hmem : (key, text) ∈ l ↔ (key, .text text) ∈ t.entries := by simp [hl]
    rw [hmem, SortedMap.mem_entries_iff, hget]
    cases texts key <;> simp
  · simp only [clearAll, withTable, ht, SortedMap.size, hl, List.length_map]

theorem Holds.shows (h : s.Holds texts) : s.Shows texts where
  read key reader := read_eq (h.text? key) reader
  entries := by
    obtain ⟨l, hl, hsorted, hmem, hclear⟩ := h.entries
    exact ⟨l, hl, hsorted.imp Text.Utf8.encode_lt_iff.2, hmem, hclear⟩
  clear key := by
    obtain ⟨s', hclear, -⟩ := h.clear key
    rw [hclear]
    rfl
  clearAttempt feature := by
    obtain ⟨s', hclear, -⟩ := h.clear (attemptKey feature)
    rw [clearAttempt, hclear]
    rfl
  attempts feature time := by
    obtain ⟨noted, hrecord, hnoted⟩ := h.put (attemptKey feature) (.string time.write)
    obtain ⟨forgotten, hclear, hforgotten⟩ := h.clear (attemptKey feature)
    refine ⟨noted, forgotten, hrecord, by rw [clearAttempt, hclear]; rfl, fun key hne => ?_⟩
    have hother : key ≠ attemptKey feature := hne
    rw [hnoted.text?, hforgotten.text?, h.text?, if_neg hother, if_neg hother]
    exact ⟨rfl, rfl⟩

/-- After any operations on an empty store, each key has the text last put there and not cleared since. -/
theorem shows_lastText (ops : List Operation) :
    ∃ s, empty.performAll ops = .ok s ∧ s.Shows (lastText ops) := by
  obtain ⟨s, hs, h⟩ := holds_empty.performAll ops
  exact ⟨s, hs, h.shows⟩

end ChangeDesk.Session
