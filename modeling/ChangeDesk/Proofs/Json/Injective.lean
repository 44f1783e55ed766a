import ChangeDesk.Proofs.Json.Numbers
import ChangeDesk.Proofs.Json.Strings

/-!
The compact text of a value determines the value: whatever stands behind it, which may be nothing, a comma or a
closing bracket, a printed value can be told from any other and from its own surroundings.
-/
namespace ChangeDesk.Json

/-- What the first character of a printed value says about it. -/
inductive Shape where
  | null
  | bool (value : Bool)
  | number
  | string
  | array
  | object
deriving DecidableEq

def shape : Json → Shape
  | .null => .null
  | .bool b => .bool b
  | .number _ => .number
  | .string _ => .string
  | .array _ => .array
  | .object _ => .object

def shapeOf? (c : Char) : Option Shape :=
  if c = 'n' then some .null
  else if c = 't' then some (.bool true)
  else if c = 'f' then some (.bool false)
  else if c = '"' then some .string
  else if c = '[' then some .array
  else if c = '\x7b' then some .object
  else if c = '-' ∨ (digitValue? c).isSome then some .number
  else none

theorem shapeOf?_digit {c : Char} (h : (digitValue? c).isSome) : shapeOf? c = some .number := by
  have hne (d : Char) (hd : digitValue? d = none) : c ≠ d := by
    rintro rfl
    rw [hd] at h
    cases h
  simp [shapeOf?, hne 'n' (by decide), hne 't' (by decide), hne 'f' (by decide), hne '"' (by decide),
    hne '[' (by decide), hne '\x7b' (by decide), h]

/-- A literal starts with a minus or a digit. -/
theorem shapeOf?_of_literal? {cs rest : List Char} {l : Literal} (h : literal? cs = some (l, rest)) :
    ∃ c t, cs = c :: t ∧ shapeOf? c = some .number := by
  cases cs with
  | nil => simp [literal?, digits] at h
  | cons c t =>
    refine ⟨c, t, rfl, ?_⟩
    by_cases hminus : c = '-'
    · rw [hminus]
      decide
    · cases hdigit : digitValue? c with
      | some d => exact shapeOf?_digit (by rw [hdigit]; rfl)
      | none => simp [literal?, hminus, digits, hdigit] at h

theorem exists_head (v : Json) : ∃ c t, chars v = c :: t ∧ shapeOf? c = some v.shape := by
  cases v with
  | null => exact ⟨_, _, rfl, by decide⟩
  | bool b => cases b <;> exact ⟨_, _, rfl, rfl⟩
  | number n =>
    obtain ⟨l, hl⟩ := n.exists_literal? Ends.nil
    rw [List.append_nil] at hl
    exact shapeOf?_of_literal? hl
  | string s => exact ⟨_, _, rfl, rfl⟩
  | array items => cases items <;> exact ⟨_, _, rfl, rfl⟩
  | object members => cases members <;> exact ⟨_, _, rfl, rfl⟩

theorem shape_eq {v w : Json} {x y : List Char} (h : chars v ++ x = chars w ++ y) : v.shape = w.shape := by
  obtain ⟨c, t, hv, hc⟩ := v.exists_head
  obtain ⟨d, u, hw, hd⟩ := w.exists_head
  rw [hv, hw, List.cons_append, List.cons_append, List.cons.injEq] at h
  rw [h.1, hd] at hc
  exact (Option.some.inj hc).symm

/-- No printed value starts with a closing bracket. -/
theorem chars_append_ne (v : Json) {c : Char} (hc : shapeOf? c = none) (x y : List Char) :
    chars v ++ x ≠ c :: y := by
  intro h
  obtain ⟨d, t, hv, hd⟩ := v.exists_head
  rw [hv, List.cons_append, List.cons.injEq] at h
  rw [h.1, hc] at hd
  cases hd

theorem ends_itemsChars (items : List Json) (x : List Char) : Ends (itemsChars items ++ x) := by
  cases items with
  | nil => exact .cons (by simp)
  | cons v rest => exact .cons (by simp)

theorem ends_membersChars (members : List (String × Json)) (x : List Char) :
    Ends (membersChars members ++ x) := by
  cases members with
  | nil => exact .cons (by simp)
  | cons e rest =>
    obtain ⟨k, v⟩ := e
    exact .cons (by simp)

mutual

/-- A printed value determines itself and where it ends. -/
theorem chars_append_inj (v w : Json) {x y : List Char} (hx : Ends x) (hy : Ends y)
    (h : chars v ++ x = chars w ++ y) : v = w ∧ x = y := by
  have hshape := shape_eq h
  cases v with
  | null =>
    cases w with
    | null => simpa [chars] using h
    | _ => cases hshape
  | bool b =>
    cases w with
    | bool c =>
      obtain rfl := Shape.bool.inj hshape
      exact ⟨rfl, List.append_cancel_left h⟩
    | _ => cases hshape
  | number n =>
    cases w with
    | number m =>
      obtain ⟨rfl, rfl⟩ := Number.chars_append_inj hx hy h
      exact ⟨rfl, rfl⟩
    | _ => cases hshape
  | string s =>
    cases w with
    | string t =>
      obtain ⟨rfl, rfl⟩ := stringChars_append_inj h
      exact ⟨rfl, rfl⟩
    | _ => cases hshape
  | array items =>
    cases w with
    | array items' =>
      cases items with
      | nil =>
        cases items' with
        | nil => simpa [chars] using h
        | cons w rest' =>
          simp only [chars, List.cons_append, List.append_assoc, List.cons.injEq, true_and] at h
          exact absurd h.symm (chars_append_ne w (by decide) _ _)
      | cons v rest =>
        cases items' with
        | nil =>
          simp only [chars, List.cons_append, List.append_assoc, List.cons.injEq, true_and] at h
          exact absurd h (chars_append_ne v (by decide) _ _)
        | cons w rest' =>
          simp only [chars, List.cons_append, List.append_assoc, List.cons.injEq, true_and] at h
          obtain ⟨rfl, hrest⟩ := chars_append_inj v w (ends_itemsChars _ _) (ends_itemsChars _ _) h
          obtain ⟨rfl, rfl⟩ := itemsChars_append_inj rest rest' hrest
          exact ⟨rfl, rfl⟩
    | _ => cases hshape
  | object members =>
    cases w with
    | object members' =>
      cases members with
      | nil =>
        cases members' with
        | nil => simpa [chars] using h
        | cons e rest' => simp [chars, stringChars] at h
      | cons e rest =>
        cases members' with
        | nil => simp [chars, stringChars] at h
        | cons e' rest' =>
          obtain ⟨k, v⟩ := e
          obtain ⟨k', w⟩ := e'
          simp only [chars, List.cons_append, List.append_assoc, List.cons.injEq, true_and] at h
          obtain ⟨rfl, hvalue⟩ := stringChars_append_inj h
          simp only [List.cons.injEq, true_and] at hvalue
          obtain ⟨rfl, hrest⟩ :=
            chars_append_inj v w (ends_membersChars _ _) (ends_membersChars _ _) hvalue
          obtain ⟨rfl, rfl⟩ := membersChars_append_inj rest rest' hrest
          exact ⟨rfl, rfl⟩
    | _ => cases hshape

/-- Printed items determine themselves and where they end. -/
theorem itemsChars_append_inj (items items' : List Json) {x y : List Char}
    (h : itemsChars items ++ x = itemsChars items' ++ y) : items = items' ∧ x = y := by
  cases items with
  | nil =>
    cases items' with
    | nil => simpa [itemsChars] using h
    | cons w rest' => simp [itemsChars] at h
  | cons v rest =>
    cases items' with
    | nil => simp [itemsChars] at h
    | cons w rest' =>
      simp only [itemsChars, List.cons_append, List.append_assoc, List.cons.injEq, true_and] at h
      obtain ⟨rfl, hrest⟩ := chars_append_inj v w (ends_itemsChars _ _) (ends_itemsChars _ _) h
      obtain ⟨rfl, rfl⟩ := itemsChars_append_inj rest rest' hrest
      exact ⟨rfl, rfl⟩

/-- Printed members determine themselves and where they end. -/
theorem membersChars_append_inj (members members' : List (String × Json)) {x y : List Char}
    (h : membersChars members ++ x = membersChars members' ++ y) : members = members' ∧ x = y := by
  cases members with
  | nil =>
    cases members' with
    | nil => simpa [membersChars] using h
    | cons e rest' => simp [membersChars] at h
  | cons e rest =>
    cases members' with
    | nil => simp [membersChars] at h
    | cons e' rest' =>
      obtain ⟨k, v⟩ := e
      obtain ⟨k', w⟩ := e'
      simp only [membersChars, List.cons_append, List.append_assoc, List.cons.injEq, true_and] at h
      obtain ⟨rfl, hvalue⟩ := stringChars_append_inj h
      simp only [List.cons.injEq, true_and] at hvalue
      obtain ⟨rfl, hrest⟩ := chars_append_inj v w (ends_membersChars _ _) (ends_membersChars _ _) hvalue
      obtain ⟨rfl, rfl⟩ := membersChars_append_inj rest rest' hrest
      exact ⟨rfl, rfl⟩

end

/-- Different values have different texts. -/
theorem compact_inj {v w : Json} : v.compact = w.compact ↔ v = w := by
  refine ⟨fun h => ?_, congrArg compact⟩
  exact (chars_append_inj v w Ends.nil Ends.nil (congrArg (· ++ []) (String.ofList_injective h))).1

end ChangeDesk.Json
