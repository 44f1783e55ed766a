/-!
Which answer of the backend still counts. Each request gets a token; of each kind only the latest token is
current, until it is settled, cancelled or orphaned by a new generation. Sequence numbers grow over all
kinds.
-/
namespace ChangeDesk

inductive RequestKind where
  | providers
  | definition
  | typeahead
  | preview
  | submit
deriving DecidableEq, Repr

def RequestKind.all : List RequestKind := [.providers, .definition, .typeahead, .preview, .submit]

structure Token where
  kind : RequestKind
  seq : Nat
  generation : Nat
deriving DecidableEq, Repr

/-- The numbers given out so far, and the current number of each kind that is awaited. -/
structure Inflight where
  lastSeq : Nat
  generation : Nat
  latest : RequestKind → Option Nat

namespace Inflight

def new : Inflight := ⟨0, 0, fun _ => none⟩

def withLatest (t : Inflight) (kind : RequestKind) (seq : Option Nat) : Inflight :=
  { t with latest := fun k => if k = kind then seq else t.latest k }

/-- A token for a new request; it takes the place of an earlier one of its kind. -/
def issue (kind : RequestKind) (t : Inflight) : Token × Inflight :=
  let seq := t.lastSeq + 1
  (⟨kind, seq, t.generation⟩, { t.withLatest kind (some seq) with lastSeq := seq })

def isCurrent (t : Inflight) (token : Token) : Bool :=
  token.generation == t.generation && t.latest token.kind == some token.seq

def cancel (kind : RequestKind) (t : Inflight) : Inflight := t.withLatest kind none

/-- Accepts an answer if it still counts, and then no second time. -/
def settle (token : Token) (t : Inflight) : Bool × Inflight :=
  if t.isCurrent token then (true, t.cancel token.kind) else (false, t)

def isPending (t : Inflight) (kind : RequestKind) : Bool := (t.latest kind).isSome

def hasPending (t : Inflight) : Bool := RequestKind.all.any t.isPending

/-- The table in which nothing issued so far counts any more. -/
def nextGeneration (t : Inflight) : Inflight :=
  { t with generation := t.generation + 1, latest := fun _ => none }

end Inflight

end ChangeDesk
