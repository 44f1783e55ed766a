import ChangeDesk.Picker
import ChangeDesk.Proofs.Draft.Operations
import Mathlib.Data.List.Nodup

/-!
The cards of a picker. Whatever list comes in, every integration in it is shown once, where it occurred first.
That there are no repeats is what makes choosing a card and finding it again the inverse of each other: a picker
that follows the draft comes back to the card that was chosen.
-/
namespace ChangeDesk

namespace Draft

variable {d : Draft} {s : Integration}

/-- What is chosen is the choice of the draft, unless a part of it is blank. -/
theorem selection_choose (d : Draft) (hp : Text.isBlank s.provider = false)
    (ht : Text.isBlank s.subType = false) : (d.choose s).selection = some s := by
  have hsubType : (d.choose s).text subTypeField = s.subType := by
    rw [Draft.text, choose, setText, get?_setField_self]
    rfl
  have hprovider : (d.choose s).text providerField = s.provider := by
    rw [Draft.text, choose, setText, get?_setField _ (by decide) (by decide), setText, get?_setField_self]
    rfl
  rw [selection, hprovider, hsubType, hp, ht]
  rfl

end Draft

namespace Picker

variable {p : Picker} {d : Draft} {s : Integration} {l pre cards : List Integration}

/-- The items of a list, once each and in the order in which they occur first. -/
structure Firsts (l cards : List Integration) : Prop where
  mem : ∀ s, s ∈ cards ↔ s ∈ l
  inOrder : cards.Pairwise (fun s t => l.idxOf s < l.idxOf t)

namespace Firsts

theorem nil : Firsts [] [] := ⟨fun _ => Iff.rfl, .nil⟩

theorem nodup (h : Firsts l cards) : cards.Nodup :=
  h.inOrder.imp fun hlt he => by simp [he] at hlt

/-- Behind a list its items have the places that they have in it. -/
theorem inOrder_append (h : Firsts pre cards) (rest : List Integration) :
    cards.Pairwise (fun s t => (pre ++ rest).idxOf s < (pre ++ rest).idxOf t) := by
  refine h.inOrder.imp_of_mem fun hs ht hlt => ?_
  rwa [List.idxOf_append_of_mem ((h.mem _).1 hs), List.idxOf_append_of_mem ((h.mem _).1 ht)]

/-- An item that occurred before adds nothing. -/
theorem skip (h : Firsts pre cards) (hs : s ∈ pre) : Firsts (pre ++ [s]) cards := by
  refine ⟨fun t => ?_, h.inOrder_append [s]⟩
  rw [h.mem, List.mem_append, List.mem_singleton]
  exact ⟨.inl, fun ht => ht.elim id fun he => he ▸ hs⟩

/-- An item that did not occur yet comes last. -/
theorem keep (h : Firsts pre cards) (hs : s ∉ pre) : Firsts (pre ++ [s]) (cards ++ [s]) := by
  refine ⟨fun t => by rw [List.mem_append, List.mem_append, h.mem], ?_⟩
  refine List.pairwise_append.2 ⟨h.inOrder_append [s], List.pairwise_singleton _ _, fun t ht u hu => ?_⟩
  have hpre := (h.mem t).1 ht
  rw [List.mem_singleton.1 hu, List.idxOf_append_of_mem hpre, List.idxOf_append_of_notMem hs]
  exact Nat.lt_add_right _ (List.idxOf_lt_length_of_mem hpre)

end Firsts

/-- The items seen so far are those of the list so far, the last one first. -/
theorem firsts_distinctAux {seen : List Integration} (h : Firsts pre seen.reverse) (rest : List Integration) :
    Firsts (pre ++ rest) (distinctAux seen rest) := by
  induction rest generalizing pre seen with
  | nil => simpa [distinctAux] using h
  | cons s rest ih =>
    have hmem : s ∈ seen ↔ s ∈ pre := by rw [← h.mem, List.mem_reverse]
    rw [List.append_cons, distinctAux]
    split
    · exact ih (h.skip (hmem.1 ‹_›))
    · refine ih ?_
      rw [List.reverse_cons]
      exact h.keep (mt hmem.2 ‹_›)

theorem firsts_distinct (l : List Integration) : Firsts l (distinct l) := by
  have hnil : Firsts [] ([] : List Integration).reverse := .nil
  exact firsts_distinctAux hnil l

theorem distinct_eq_nil : distinct l = [] ↔ l = [] := by
  simp only [List.eq_nil_iff_forall_not_mem, (firsts_distinct l).mem]

theorem cards_load (p : Picker) (l : List Integration) : (p.load l).cards = distinct l := by
  unfold load
  split
  · rename_i hnil
    exact hnil.symm
  · rfl

/-- A list that comes in is on show, or it is known to be empty. -/
theorem offer_load (p : Picker) (l : List Integration) :
    (p.load l).offer = if l = [] then .empty else .ready (distinct l) := by
  unfold load
  split
  · rename_i hnil
    rw [if_pos (distinct_eq_nil.1 hnil)]
  · rename_i hne
    rw [if_neg (mt distinct_eq_nil.2 hne)]

theorem offer_load_ne (p : Picker) (l : List Integration) : (p.load l).offer ≠ .loading := by
  rw [offer_load]
  split <;> simp

theorem offer_syncWith (p : Picker) (d : Draft) : (p.syncWith d).offer = p.offer := by
  unfold syncWith
  split
  · rfl
  · split <;> rfl

theorem cards_syncWith (p : Picker) (d : Draft) : (p.syncWith d).cards = p.cards := by
  rw [cards, cards, offer_syncWith]

/-- Following a draft finds the card of its choice where it is highlighted already. -/
theorem syncWith_eq_self (hcards : p.cards.Nodup) (hcard : p.selectedCard? = some s)
    (h : d.selection = some s) : p.syncWith d = p := by
  obtain ⟨hlt, hget⟩ := List.getElem?_eq_some_iff.1 hcard
  have hfind : p.cards.findIdx? (· == s) = some p.selected := by
    refine List.findIdx?_eq_some_iff_getElem.2 ⟨hlt, beq_iff_eq.2 hget, fun j hj he => ?_⟩
    have hsame : j = p.selected := hcards.getElem_inj_iff.1 ((beq_iff_eq.1 he).trans hget.symm)
    omega
  rw [syncWith, h]
  simp only [hfind]

inductive Operation where
  | reload
  | load (l : List Integration)
  | fail (message : String)
  | next
  | previous
  /-- Highlights whatever stands at a position. -/
  | point (i : Nat)
  | follow (d : Draft)

def perform (p : Picker) : Operation → Picker
  | .reload => p.reload
  | .load l => p.load l
  | .fail message => p.fail message
  | .next => p.selectNext
  | .previous => p.selectPrevious
  | .point i => { p with selected := i }
  | .follow d => p.syncWith d

def run (ops : List Operation) : Picker := ops.foldl perform new

theorem cards_selectNext (p : Picker) : p.selectNext.cards = p.cards := by
  unfold selectNext
  split <;> rfl

/-- No operation brings repeats among the cards. -/
theorem nodup_perform (h : p.cards.Nodup) (op : Operation) : (p.perform op).cards.Nodup := by
  cases op with
  | reload | fail => exact .nil
  | load l =>
    rw [perform, cards_load]
    exact (firsts_distinct l).nodup
  | next =>
    rw [perform, cards_selectNext]
    exact h
  | previous | point => exact h
  | follow d =>
    rw [perform, cards_syncWith]
    exact h

theorem nodup_foldl (ops : List Operation) (h : p.cards.Nodup) : (ops.foldl perform p).cards.Nodup := by
  induction ops generalizing p with
  | nil => exact h
  | cons op ops ih => exact ih (nodup_perform h op)

theorem nodup_run (ops : List Operation) : (run ops).cards.Nodup := nodup_foldl ops .nil

/-- Whatever was done with a picker before: of a list that comes in, every integration is shown once, in the
order of first occurrence, and the offer is known to be empty exactly if the list is; and to choose the
highlighted card, if no part of it is blank, makes it the choice of the draft, whatever that was, and leaves the
picker that follows the draft as it is. -/
theorem shown_once_and_chosen (ops : List Operation) :
    (∀ l, ((run ops).load l).cards.Nodup ∧ Firsts l ((run ops).load l).cards ∧
      (((run ops).load l).offer = .empty ↔ l = []) ∧
      (l ≠ [] → ((run ops).load l).offer = .ready ((run ops).load l).cards)) ∧
    ∀ s d, (run ops).selectedCard? = some s → Text.isBlank s.provider = false →
      Text.isBlank s.subType = false → ∃ d', (run ops).choose d = (some s, d') ∧
        d'.selection = some s ∧ (run ops).syncWith d' = run ops := by
  constructor
  · intro l
    have hfirsts := firsts_distinct l
    rw [cards_load, offer_load]
    refine ⟨hfirsts.nodup, hfirsts, ?_, fun hne => if_neg hne⟩
    split <;> simp_all
  · intro s d hcard hprovider hsubType
    have hselection := d.selection_choose hprovider hsubType
    refine ⟨d.choose s, ?_, hselection, syncWith_eq_self (nodup_run ops) hcard hselection⟩
    rw [choose, hcard]

namespace Sample

def second : List Operation :=
  [.fail "unreachable", .load [⟨"aws", "s3"⟩, ⟨"aws", "s3"⟩, ⟨"okta", "group"⟩, ⟨"aws", "s3"⟩], .next]

end Sample

theorem shown_once_and_chosen_sample :
    (run Sample.second).selectedCard? = some ⟨"okta", "group"⟩ ∧ Text.isBlank "okta" = false ∧
      Text.isBlank "group" = false ∧ ∃ d', (run Sample.second).choose .new = (some ⟨"okta", "group"⟩, d') ∧
        d'.selection = some ⟨"okta", "group"⟩ ∧ (run Sample.second).syncWith d' = run Sample.second :=
  have hcard : (run Sample.second).selectedCard? = some ⟨"okta", "group"⟩ := by decide
  ⟨hcard, by decide, by decide,
    (shown_once_and_chosen Sample.second).2 ⟨"okta", "group"⟩ .new hcard (by decide) (by decide)⟩

end Picker

end ChangeDesk
