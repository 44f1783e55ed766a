import ChangeDesk.Proofs.Json.Reading
import ChangeDesk.Session.Store

/-!
Values kept in the session store. What was stored is read back as it was, unless it nests deeper than texts may
that are read; then its entry can be stored all the same, and is an error when it is read.
-/
namespace ChangeDesk.Session

def readText {α : Type} (key : String) (reader : String → Option α) :
    Option String → Except SessionError (Option α)
  | none => .ok none
  | some text =>
    match reader text with
    | some x => .ok (some x)
    | none => .error (.entry key)

variable {α : Type} {s : Session} {key : String} {text : Option String}

/-- Reading depends on the text under the key only. -/
theorem read_eq (h : s.text? key = .ok text) (reader : String → Option α) :
    s.read key reader = readText key reader text := by
  rw [read, h]
  cases text with
  | none => rfl
  | some text =>
    rw [readText]
    cases hread : reader text <;> simp [bind, Except.bind, hread] <;> rfl

theorem text?_of_get? {t : SortedMap Stored} (h : t.get? key = text.map .text) :
    text? ⟨some t⟩ key = .ok text := by
  simp only [text?, withTable, h]
  cases text <;> rfl

/-- A value is stored whatever was there before. It is read back exactly if it nests no deeper than 127 arrays
and objects, and its entry is unreadable otherwise. -/
theorem get_of_put (t : SortedMap Stored) (key : String) {v : Json} (hc : v.Canonical) (hi : v.Integral) :
    ∃ s, put key v ⟨some t⟩ = .ok s ∧ (s.get key = .ok (some v) ↔ v.depth ≤ 127) ∧
      (¬ v.depth ≤ 127 → s.get key = .error (.entry key)) ∧
      (Json.parse? v.compact = some v ↔ v.depth ≤ 127) := by
  have hparse : Json.parse? v.compact = if v.depth ≤ 127 then some v else none := by
    simpa only [v.sorted_of_canonical hc, Json.nestingLimit] using Json.parse?_compact hi
  have htext : text? ⟨some (t.insert key (.text v.compact))⟩ key = .ok (some v.compact) :=
    text?_of_get? (by rw [SortedMap.get?_insert, if_pos rfl, Option.map_some])
  refine ⟨⟨some (t.insert key (.text v.compact))⟩, rfl, ?_⟩
  rw [get, read_eq htext, readText, hparse]
  by_cases h : v.depth ≤ 127 <;> simp [h]

namespace Sample

def counts (arrays : Nat) : Json := Json.nest arrays (.object [("\"ü\n", .number .zero)])

theorem canonical_counts (arrays : Nat) : (counts arrays).Canonical :=
  Json.canonical_nest arrays ⟨List.pairwise_singleton _ _, trivial, trivial⟩

theorem integral_counts (arrays : Nat) : (counts arrays).Integral :=
  Json.integral_nest arrays ⟨trivial, trivial⟩

theorem depth_counts (arrays : Nat) : (counts arrays).depth = 1 + arrays := Json.depth_nest arrays _

end Sample

/-- An object inside 126 arrays comes back, and inside 127 it does not. -/
theorem get_of_put_counts :
    (∃ s, put "tour" (Sample.counts 126) empty = .ok s ∧
      s.get "tour" = .ok (some (Sample.counts 126))) ∧
      ∃ s, put "tour" (Sample.counts 127) empty = .ok s ∧ s.get "tour" = .error (.entry "tour") := by
  constructor
  · obtain ⟨s, hput, hget, -⟩ :=
      get_of_put .empty "tour" (Sample.canonical_counts 126) (Sample.integral_counts 126)
    exact ⟨s, hput, hget.2 (by rw [Sample.depth_counts])⟩
  · obtain ⟨s, hput, -, hdeep, -⟩ :=
      get_of_put .empty "tour" (Sample.canonical_counts 127) (Sample.integral_counts 127)
    exact ⟨s, hput, hdeep (by rw [Sample.depth_counts]; decide)⟩

end ChangeDesk.Session
