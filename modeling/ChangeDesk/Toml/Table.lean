/-!
TOML values, and the building of a table from its keys. A table remembers how it came to be, since that
decides what may still be added to it.
-/

namespace ChangeDesk

/-- How a table came to be. -/
inductive TableOrigin where
  /-- By a header of its own. -/
  | header
  /-- On the way to a table that has a header. -/
  | passed
  /-- On the way to a value, by a key with dots. -/
  | dotted
  /-- Between braces. -/
  | closed
deriving DecidableEq, Repr

/-- A TOML value. Reals and moments are kept as they are written. -/
inductive Toml where
  | text (s : String)
  | integer (n : Int)
  | flag (b : Bool)
  | real (literal : String)
  | moment (literal : String)
  | array (items : List Toml)
  | table (origin : TableOrigin) (members : List (String × Toml))
  /-- Tables under one repeated header, the last one first. -/
  | tables (items : List (List (String × Toml)))

namespace Toml

instance : Inhabited Toml := ⟨.flag false⟩

def member? (key : String) : Toml → Option Toml
  | .table _ members => members.lookup key
  | _ => none

end Toml

end ChangeDesk

/-!
## Growing tables

How tables grow while a document is read. A value never replaces another one, and a table that was finished by
its header, or between braces, is not added to by keys with dots.
-/

namespace ChangeDesk.Toml

abbrev Members := List (String × Toml)

/-- Members in which one key has the value that `f` gives for its old one; none if `f` refuses. -/
def change? (key : String) (f : Option Toml → Option Toml) : Members → Option Members
  | [] => (f none).map fun v => [(key, v)]
  | (k, v) :: rest =>
    if k = key then (f (some v)).map fun w => (k, w) :: rest
    else (change? key f rest).map ((k, v) :: ·)

/-- Adds a value under a path of keys. The tables on the way are those that such paths make. -/
def put? (value : Toml) : (path : List String) → Members → Option Members
  | [], _ => none
  | [key], members => change? key (fun old => if old.isSome then none else some value) members
  | key :: path, members => change? key (fun
      | none => (put? value path []).map (.table .dotted)
      | some (.table .dotted ms) => (put? value path ms).map (.table .dotted)
      | some (.table .passed ms) =>
        if path.length = 1 then none else (put? value path ms).map (.table .passed)
      | some _ => none) members

/-- Goes along the path of a header to its table, which `f` makes or takes over from its old value; the
tables on the way come to be if they are missing. -/
def descend? (f : Option Toml → Option Toml) : (path : List String) → Members → Option Members
  | [], _ => none
  | [key], members => change? key f members
  | key :: path, members => change? key (fun
      | none => (descend? f path []).map (.table .passed)
      | some (.table .closed _) => none
      | some (.table origin ms) => (descend? f path ms).map (.table origin)
      -- of repeated tables the last one is meant, which comes first
      | some (.tables (ms :: others)) => (descend? f path ms).map fun ms => .tables (ms :: others)
      | some _ => none) members

/-- Opens the table of a header. It must be new, or one that was only passed so far. -/
def openTable? : (path : List String) → Members → Option Members :=
  descend? fun
    | none => some (.table .header [])
    | some (.table .passed ms) => some (.table .header ms)
    | some _ => none

def addTable? : (path : List String) → Members → Option Members :=
  descend? fun
    | none => some (.tables [[]])
    | some (.tables ts) => some (.tables ([] :: ts))
    | some _ => none

def putWithin? (value : Toml) (keys : List String) : (header : List String) → Members → Option Members
  | [] => put? value keys
  | header => descend? (fun
      | some (.table origin ms) => (put? value keys ms).map (.table origin)
      | some (.tables (ms :: others)) => (put? value keys ms).map fun ms => .tables (ms :: others)
      | _ => none) header

end ChangeDesk.Toml
