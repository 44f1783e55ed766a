import ChangeDesk.Draft

/-!
The list of integrations to choose from, with one of them highlighted. The list has no repeats and keeps
the order in which the backend reports.
-/
namespace ChangeDesk

inductive Offer where
  | loading
  /-- The backend reports that none is configured. -/
  | empty
  | ready (cards : List Integration)
  | failed (message : String)
deriving DecidableEq, Repr

structure Picker where
  offer : Offer
  selected : Nat
deriving DecidableEq, Repr

namespace Picker

def new : Picker := ⟨.loading, 0⟩

def reload (_ : Picker) : Picker := new

/-- A list without repeats, in order of first occurrence. `seen` holds the items already kept, last first. -/
def distinctAux (seen : List Integration) : List Integration → List Integration
  | [] => seen.reverse
  | s :: rest => if s ∈ seen then distinctAux seen rest else distinctAux (s :: seen) rest

def distinct (l : List Integration) : List Integration := distinctAux [] l

def load (l : List Integration) (_ : Picker) : Picker :=
  match distinct l with
  | [] => ⟨.empty, 0⟩
  | cards => ⟨.ready cards, 0⟩

def fail (message : String) (p : Picker) : Picker := { p with offer := .failed message }

def cards (p : Picker) : List Integration :=
  match p.offer with
  | .ready cards => cards
  | _ => []

def selectNext (p : Picker) : Picker :=
  if p.selected + 1 < p.cards.length then { p with selected := p.selected + 1 } else p

def selectPrevious (p : Picker) : Picker := { p with selected := p.selected - 1 }

def selectedCard? (p : Picker) : Option Integration := p.cards[p.selected]?

/-- Highlights the card that the draft has chosen, if it is on show. -/
def syncWith (d : Draft) (p : Picker) : Picker :=
  match d.selection with
  | none => p
  | some s =>
    match p.cards.findIdx? (· == s) with
    | some i => { p with selected := i }
    | none => p

/-- Writes the highlighted card into the draft. -/
def choose (p : Picker) (d : Draft) : Option Integration × Draft :=
  match p.selectedCard? with
  | some s => (some s, d.choose s)
  | none => (none, d)

end Picker

end ChangeDesk
