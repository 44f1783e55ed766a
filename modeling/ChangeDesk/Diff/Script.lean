/-!
The shortest script of changes from one list to another, found from a place in its middle, and brought into
the form in which it is shown. The search for the middle runs from both ends at once: after `d` differences,
`reach k` is the furthest position on diagonal `k` of a way from one end, and the middle is found where a way
from the front meets one from the back. The tables of the two searches are handed from one search to the next
and are not cleared in between.
-/

namespace ChangeDesk.Diff

/-- The furthest positions reached, one cell for each diagonal from `-offset` to `offset - 1`. -/
structure Frontier where
  offset : Nat
  cells : Array Nat

namespace Frontier

def start (offset : Nat) : Frontier := ⟨offset, Array.replicate (2 * offset) 0⟩

/-- The position reached on a diagonal. -/
def reach (f : Frontier) (k : Int) : Nat := f.cells.getD (k + f.offset).toNat 0

def put (f : Frontier) (k : Int) (x : Nat) : Frontier :=
  { f with cells := f.cells.setIfInBounds (k + f.offset).toNat x }

/-- The start of the next way on diagonal `k` with `d` differences: from the neighbouring diagonal that
reached further, one step down or one step to the right. -/
def next (f : Frontier) (d : Nat) (k : Int) : Nat :=
  if k = -d ∨ (k ≠ d ∧ f.reach (k - 1) < f.reach (k + 1)) then f.reach (k + 1)
  else f.reach (k - 1) + 1

end Frontier

structure Frontiers where
  front : Frontier
  back : Frontier

/-- One more than the number of differences that each of the two searches may have to look at. -/
def searchBound (n m : Nat) : Nat := (n + m + 1) / 2 + 1

def Frontiers.start (n m : Nat) : Frontiers :=
  ⟨.start (searchBound n m), .start (searchBound n m)⟩

/-- How many items agree from positions `i` and `j` on, looking at `fuel` of them at most. -/
def agreeing {α : Type} [DecidableEq α] (a b : Array α) : Nat → Nat → Nat → Nat
  | 0, _, _ => 0
  | fuel + 1, i, j =>
    match a[i]?, b[j]? with
    | some x, some y => if x = y then agreeing a b fuel (i + 1) (j + 1) + 1 else 0
    | _, _ => 0

/-- How many items agree from position `x` of the one and `y` of the other on; none before the start. -/
def agreeingFrom {α : Type} [DecidableEq α] (a b : Array α) (x : Nat) (y : Int) : Nat :=
  if 0 ≤ y then agreeing a b (a.size - x) x y.toNat else 0

/-- The diagonals that a way with `d` differences can end on, from the highest. -/
def diagonals (d : Nat) : List Int := (List.range (d + 1)).map (fun (i : Nat) => (d : Int) - 2 * i)

/-- What a search looks at: the sequences, also back to front, and the tables. -/
structure Search (α : Type) where
  old : Array α
  new : Array α
  oldBack : Array α
  newBack : Array α

namespace Search

variable {α : Type} [DecidableEq α]

/-- The diagonal on which the far end lies. -/
def delta (s : Search α) : Int := (s.old.size : Int) - s.new.size

/-- Extends the ways from the front with `d` differences. A meeting is looked for only if the number of
all differences is odd. -/
def forward (s : Search α) (d : Nat) : List Int → Frontiers → Option (Nat × Nat) × Frontiers
  | [], f => (none, f)
  | k :: rest, f =>
    let x := f.front.next d k
    let y : Int := x - k
    let reached := x + agreeingFrom s.old s.new x y
    let f := { f with front := f.front.put k reached }
    if s.delta % 2 = 1 ∧ ((k - s.delta).natAbs : Int) ≤ (d : Int) - 1 ∧
        s.old.size ≤ reached + f.back.reach (s.delta - k) then
      (some (x, y.toNat), f)
    else s.forward d rest f

/-- Extends the ways from the back with `d` differences. A meeting is looked for only if the number of
all differences is even. -/
def backward (s : Search α) (d : Nat) : List Int → Frontiers → Option (Nat × Nat) × Frontiers
  | [], f => (none, f)
  | k :: rest, f =>
    let x := f.back.next d k
    let y : Int := x - k
    let advance := agreeingFrom s.oldBack s.newBack x y
    let reached := x + advance
    let f := { f with back := f.back.put k reached }
    if s.delta % 2 ≠ 1 ∧ (k - s.delta).natAbs ≤ d ∧
        s.old.size ≤ reached + f.front.reach (s.delta - k) then
      (some (s.old.size - reached, (s.new.size - (y + advance)).toNat), f)
    else s.backward d rest f

/-- Searches with `d` differences and more, `fuel` numbers of them. -/
def run (s : Search α) : Nat → Nat → Frontiers → Option (Nat × Nat) × Frontiers
  | 0, _, f => (none, f)
  | fuel + 1, d, f =>
    match s.forward d (diagonals d) f with
    | (some p, f) => (some p, f)
    | (none, f) =>
      match s.backward d (diagonals d) f with
      | (some p, f) => (some p, f)
      | (none, f) => s.run fuel (d + 1) f

end Search

/-- A point at which a shortest way between the sequences can be cut in two, and the tables left behind. -/
def middle {α : Type} [DecidableEq α] (old new : List α) (f : Frontiers) :
    Option (Nat × Nat) × Frontiers :=
  let s : Search α :=
    ⟨old.toArray, new.toArray, old.reverse.toArray, new.reverse.toArray⟩
  let f : Frontiers := ⟨f.front.put 1 0, f.back.put 1 0⟩
  s.run (searchBound old.length new.length) 0 f

/-!
## Scripts

Edit scripts between two sequences, as runs of items that are kept, removed or added. A script is found by
cutting the sequences at a middle of a shortest way between them and is then compacted: removed and then added
runs are moved up and down as far as they can go, joining runs of their kind on the way.
-/

inductive Run (α : Type) where
  | keep (items : List α)
  | remove (items : List α)
  | add (items : List α)
deriving DecidableEq, Repr

abbrev Script (α : Type) := List (Run α)

namespace Run

variable {α : Type}

def items : Run α → List α
  | keep l => l
  | remove l => l
  | add l => l

def old : Run α → List α
  | keep l => l
  | remove l => l
  | add _ => []

def new : Run α → List α
  | keep l => l
  | remove _ => []
  | add l => l

def isRemove : Run α → Bool
  | remove _ => true
  | _ => false

def isAdd : Run α → Bool
  | add _ => true
  | _ => false

end Run

namespace Script

variable {α : Type}

def old (s : Script α) : List α := s.flatMap Run.old

def new (s : Script α) : List α := s.flatMap Run.new

/-- The number of items removed or added. -/
def cost : Script α → Nat
  | [] => 0
  | .keep _ :: s => cost s
  | .remove l :: s => l.length + cost s
  | .add l :: s => l.length + cost s

end Script

variable {α : Type} [DecidableEq α]

/-- Splits off the longest common start: the start, and what is left of each. -/
def splitStart : List α → List α → List α × List α × List α
  | a :: as, b :: bs =>
    if a = b then
      let r := splitStart as bs
      (a :: r.1, r.2.1, r.2.2)
    else ([], a :: as, b :: bs)
  | as, bs => ([], as, bs)

/-- Splits off the longest common end: what is left of each, and the end. -/
def splitEnd (as bs : List α) : List α × List α × List α :=
  let r := splitStart as.reverse bs.reverse
  (r.2.1.reverse, r.2.2.reverse, r.1.reverse)

def keepRun (l : List α) : Script α := if l.isEmpty then [] else [.keep l]

/-- A script between two sequences: the common start and end are kept, and what is left is cut at its middle. -/
def scriptAux : Nat → List α → List α → Frontiers → Script α × Frontiers
  -- not reached with the total length as fuel, since every cut is at an inner point
  | 0, old, new, f => ([.remove old, .add new], f)
  | fuel + 1, old, new, f =>
    let (start, old, new) := splitStart old new
    let (old, new, stop) := splitEnd old new
    let (inner, f) : Script α × Frontiers :=
      match old, new with
      | [], [] => ([], f)
      | old, [] => ([.remove old], f)
      | [], new => ([.add new], f)
      | old, new =>
        match middle old new f with
        | (some (x, y), f) =>
          let (left, f) := scriptAux fuel (old.take x) (new.take y) f
          let (right, f) := scriptAux fuel (old.drop x) (new.drop y) f
          (left ++ right, f)
        | (none, f) => ([.remove old, .add new], f)
    (keepRun start ++ inner ++ keepRun stop, f)

/-- A shortest script between two sequences, not yet compacted. -/
def script (old new : List α) : Script α :=
  (scriptAux (old.length + new.length + 1) old new (.start old.length new.length)).1

/-- The number of runs and items before a place; moving a run up lowers it. -/
def weight (s : Script α) : Nat := s.foldr (fun r n => r.items.length + 1 + n) 0

def keepBefore (l : List α) : Script α → Script α
  | .keep m :: rest => .keep (l ++ m) :: rest
  | rest => .keep l :: rest

/-- Puts kept items behind a list of runs whose last run comes first. -/
def keepBehind (l : List α) : Script α → Script α
  | .keep m :: rest => .keep (m ++ l) :: rest
  | rest => .keep l :: rest

/-- A script with one run looked at: the runs before it, nearest first, the run, and the runs behind it. -/
structure Place (α : Type) where
  before : Script α
  run : Run α
  behind : Script α

def Place.script (p : Place α) : Script α := p.before.reverse ++ p.run :: p.behind

/-- The runs before and behind a run after one move upwards, or none if it can go no further. An added run
moves above kept items that end as it does; it passes removed runs and joins added ones. -/
def moveUp? (p : Place α) : Option (Place α) :=
  match p.run, p.before with
  | .add l, .keep m :: before =>
    match splitEnd m l with
    | (m', l', c :: cs) =>
      some ⟨if m'.isEmpty then before else .keep m' :: before, .add (c :: cs ++ l'),
        keepBefore (c :: cs) p.behind⟩
    | (_, _, []) => if m.isEmpty then some ⟨before, .add l, p.behind⟩ else none
  | .remove l, .keep m :: before => if m.isEmpty then some ⟨before, .remove l, p.behind⟩ else none
  | .add l, .remove m :: before => some ⟨before, .add l, .remove m :: p.behind⟩
  | .remove l, .add m :: before => some ⟨before, .remove l, .add m :: p.behind⟩
  | .add l, .add m :: before => some ⟨before, .add (m ++ l), p.behind⟩
  | .remove l, .remove m :: before => some ⟨before, .remove (m ++ l), p.behind⟩
  | _, _ => none

/-- The same downwards. -/
def moveDown? (p : Place α) : Option (Place α) :=
  match p.run, p.behind with
  | .add l, .keep m :: behind =>
    match splitStart m l with
    | (c :: cs, m', l') =>
      some ⟨keepBehind (c :: cs) p.before, .add (l' ++ c :: cs),
        if m'.isEmpty then behind else .keep m' :: behind⟩
    | ([], _, _) => if m.isEmpty then some ⟨p.before, .add l, behind⟩ else none
  | .remove l, .keep m :: behind => if m.isEmpty then some ⟨p.before, .remove l, behind⟩ else none
  | .add l, .remove m :: behind => some ⟨.remove m :: p.before, .add l, behind⟩
  | .remove l, .add m :: behind => some ⟨.add m :: p.before, .remove l, behind⟩
  | .add l, .add m :: behind => some ⟨p.before, .add (l ++ m), behind⟩
  | .remove l, .remove m :: behind => some ⟨p.before, .remove (l ++ m), behind⟩
  | _, _ => none

/-- Moves a run up as far as it goes; each move lowers the weight of the runs before it. -/
def moveUp : Nat → Place α → Place α
  | 0, p => p
  | fuel + 1, p =>
    match moveUp? p with
    | some q => moveUp fuel q
    | none => p

/-- Moves a run down as far as it goes; each move lowers the weight of the runs behind it. -/
def moveDown : Nat → Place α → Place α
  | 0, p => p
  | fuel + 1, p =>
    match moveDown? p with
    | some q => moveDown fuel q
    | none => p

/-- A run moved up and then down as far as it goes. -/
def settle (p : Place α) : Place α :=
  let p := moveUp (weight p.before) p
  moveDown (weight p.behind) p

/-- Settles every run of a kind, from the front. `before` holds the runs already passed, last one first. -/
def compactKind (wanted : Run α → Bool) : Nat → Script α → Script α → Script α
  | 0, before, behind => before.reverse ++ behind
  | _, before, [] => before.reverse
  | fuel + 1, before, r :: behind =>
    if wanted r then
      let p := settle ⟨before, r, behind⟩
      compactKind wanted fuel (p.run :: p.before) p.behind
    else compactKind wanted fuel (r :: before) behind

/-- A number of runs that no pass over the script exceeds. -/
def passBound (s : Script α) : Nat := (weight s + 1) * (weight s + 1)

/-- The script after a pass over its removed runs and one over its added runs. -/
def compact (s : Script α) : Script α :=
  let s := compactKind Run.isRemove (passBound s) [] s
  compactKind Run.isAdd (passBound s) [] s

end ChangeDesk.Diff
