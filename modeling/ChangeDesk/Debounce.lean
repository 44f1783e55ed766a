/-!
Waiting for a pause in the typing. A value is handed out once it has been unchanged for a delay, and the
value handed out last is not handed out again until a reset.
-/
namespace ChangeDesk

/-- The value entered last with its time, and the value handed out last. Times are in milliseconds. -/
structure Debounce where
  delay : Nat
  pending : Option (String × Nat)
  fired : Option String
deriving DecidableEq, Repr

namespace Debounce

def new (delay : Nat) : Debounce := ⟨delay, none, none⟩

/-- Notes a value; the delay starts anew. -/
def input (value : String) (now : Nat) (d : Debounce) : Debounce :=
  { d with pending := some (value, now) }

/-- Hands out the value once the delay has passed. A time before that of the value counts as its own. -/
def poll (now : Nat) (d : Debounce) : Option String × Debounce :=
  match d.pending with
  | none => (none, d)
  | some (value, since) =>
    if now - since < d.delay then (none, d)
    else if d.fired = some value then (none, { d with pending := none })
    else (some value, { d with pending := none, fired := some value })

def reset (d : Debounce) : Debounce := { d with pending := none, fired := none }

end Debounce

end ChangeDesk
