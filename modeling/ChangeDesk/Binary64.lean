/-!
Finite binary floating point numbers of 53 significant bits, as exact values: a sign, a significand and a
power of two in normal form. Rounding is to nearest, a tie goes to the even significand, and a magnitude that
is too large has no finite result.
-/

namespace ChangeDesk

/-- The normal form of a magnitude `significand * 2 ^ exponent`: all 53 bits are used unless the exponent is least. -/
def Binary64.Normal (significand : Nat) (exponent : Int) : Prop :=
  significand < 1 <<< 53 ∧ -1074 ≤ exponent ∧ exponent ≤ 971 ∧
    (exponent = -1074 ∨ 1 <<< 52 ≤ significand)

instance (m : Nat) (e : Int) : Decidable (Binary64.Normal m e) := by
  unfold Binary64.Normal; infer_instance

/-- The number `± significand * 2 ^ exponent`. Zero keeps its sign. -/
structure Binary64 where
  negative : Bool
  significand : Nat
  exponent : Int
  normal : Binary64.Normal significand exponent
deriving DecidableEq

namespace Binary64

def zero (negative : Bool) : Binary64 := ⟨negative, 0, -1074, by decide⟩

instance : Inhabited Binary64 := ⟨zero false⟩

def isZero (x : Binary64) : Bool := x.significand == 0

/-- Equality of values: the two zeros are equal. -/
def sameValue (x y : Binary64) : Bool := x == y || (x.isZero && y.isZero)

/-- Division rounded to the nearest integer, a tie to the even one. -/
def divNearest (num den : Nat) : Nat :=
  let q := num / den
  let r := num % den
  if 2 * r < den then q else if den < 2 * r then q + 1 else q + q % 2

/-- `num / den * 2 ^ shift` as a fraction of two naturals. -/
def scaled (num den : Nat) (shift : Int) : Nat × Nat :=
  (num <<< shift.toNat, den <<< (-shift).toNat)

/-- The least exponent at which `num / den` has at most 53 bits before the binary point. -/
def exponentFor (num den : Nat) : Int :=
  let low : Int := (num.log2 : Int) - den.log2 - 53
  let fits (e : Int) : Bool := let f := scaled num den (-e); f.1 < f.2 <<< 53
  -- both logarithms are rounded down, which leaves three exponents
  let e := if fits low then low else if fits (low + 1) then low + 1 else low + 2
  max e (-1074)

/-- The number nearest to `± num / den`, unless that is beyond the largest finite one. -/
def ofRatio? (negative : Bool) (num den : Nat) : Option Binary64 :=
  if num = 0 then some (zero negative) else
    let e := exponentFor num den
    let f := scaled num den (-e)
    let m := divNearest f.1 f.2
    -- rounding up may have given one bit too many
    let (m, e) := if m = 1 <<< 53 then (1 <<< 52, e + 1) else (m, e)
    if h : Normal m e then some ⟨negative, m, e, h⟩ else none

def ofNat? (negative : Bool) (n : Nat) : Option Binary64 := ofRatio? negative n 1

def magnitude (x : Binary64) : Nat × Nat := scaled x.significand 1 x.exponent

/-- The rounded product; none when it is too large. -/
def mul? (x y : Binary64) : Option Binary64 :=
  let a := x.magnitude
  let b := y.magnitude
  ofRatio? (x.negative != y.negative) (a.1 * b.1) (a.2 * b.2)

/-- The rounded quotient; none when it is too large or the divisor is zero. -/
def div? (x y : Binary64) : Option Binary64 :=
  if y.isZero then none else
    let a := x.magnitude
    let b := y.magnitude
    ofRatio? (x.negative != y.negative) (a.1 * b.2) (a.2 * b.1)

end Binary64

end ChangeDesk

/-!
## Shortest decimals

The shortest decimal digits that read back as a given number. A decimal reads back exactly when it lies in the
rounding interval of the number, whose ends belong to it when the significand is even. Grids of one to
seventeen digits are tried in turn; on each only the two grid points beside the value have to be looked at,
since if any point of a grid lies in the interval then one of these does.
-/

namespace ChangeDesk.Binary64

/-- A positive decimal `digits * 10 ^ power`. -/
structure Decimal where
  digits : Nat
  power : Int
deriving DecidableEq, Repr

def Decimal.ratio (d : Decimal) : Nat × Nat :=
  (d.digits * Nat.pow 10 d.power.toNat, Nat.pow 10 (-d.power).toNat)

def ratioLt (a b : Nat × Nat) : Bool := a.1 * b.2 < b.1 * a.2

/-- The two ends of the interval of reals that round to `significand * 2 ^ exponent`. -/
def roundingEnds (x : Binary64) : (Nat × Nat) × (Nat × Nat) :=
  let upper := scaled (2 * x.significand + 1) 1 (x.exponent - 1)
  let lower :=
    if x.significand = 1 <<< 52 ∧ x.exponent ≠ -1074 then
      scaled (4 * x.significand - 1) 1 (x.exponent - 2)
    else scaled (2 * x.significand - 1) 1 (x.exponent - 1)
  (lower, upper)

/-- Whether a decimal lies in the rounding interval of the magnitude. -/
def readsBack (x : Binary64) (d : Decimal) : Bool :=
  let (lower, upper) := x.roundingEnds
  let r := d.ratio
  if x.significand % 2 = 0 then !ratioLt r lower && !ratioLt upper r
  else ratioLt lower r && ratioLt r upper

def digitCount (n : Nat) : Nat := (Nat.toDigits 10 n).length

/-- An exponent `k` with `10 ^ (k - 1) ≤ num / den < 10 ^ k`. -/
def decimalExponent (num den : Nat) : Int :=
  let guess : Int := (digitCount num : Int) - digitCount den
  let below (k : Int) : Bool := num * Nat.pow 10 (-k).toNat < den * Nat.pow 10 k.toNat
  if below guess then guess else guess + 1

/-- The decimal of `count` digits chosen for the magnitude: of the two grid points beside it the one that
reads back and is nearer, the even one when both are as near. -/
def candidate? (x : Binary64) (k : Int) (count : Nat) : Option Decimal :=
  let power := k - count
  let (num, den) := x.magnitude
  let a := num * Nat.pow 10 (-power).toNat
  let b := den * Nat.pow 10 power.toNat
  let low : Decimal := ⟨a / b, power⟩
  let high : Decimal := ⟨a / b + 1, power⟩
  let r := a % b
  let first := if 2 * r < b then low else if b < 2 * r then high else
    if a / b % 2 = 0 then low else high
  let second := if first = low then high else low
  if x.readsBack first then some first
  else if x.readsBack second then some second
  else none

def Decimal.strip (d : Decimal) : Decimal := go d.digits d
where
  go : Nat → Decimal → Decimal
    | 0, d => d
    | fuel + 1, d =>
      if d.digits ≠ 0 ∧ d.digits % 10 = 0 then go fuel ⟨d.digits / 10, d.power + 1⟩ else d

/-- The shortest decimal for the magnitude of a number that is not zero. -/
def shortest (x : Binary64) : Decimal :=
  let (num, den) := x.magnitude
  let k := decimalExponent num den
  match (List.range 17).findSome? (fun n => x.candidate? k (n + 1)) with
  | some d => d.strip
  | none => ⟨x.significand, 0⟩

/-!
## Literals

The number that a decimal literal denotes. The digits are gathered in a 64-bit significand; a digit that no
longer fits there only raises the power of ten when it stands before the point, and is dropped when it stands
behind it. The power of ten is then applied by one rounded multiplication or division, after as many divisions
by the largest power as its size needs.
-/

/-- The largest value of the gathered significand. -/
def significandLimit : Nat := UInt64.size

/-- Digits gathered so far: a significand and the power of ten it is to be multiplied by. -/
structure Gathered where
  significand : Nat
  power : Int
deriving DecidableEq

/-- Gathers the digits before the point. From the first digit that does not fit, each digit raises the power. -/
def gatherWhole : Nat → List Nat → Gathered
  | m, [] => ⟨m, 0⟩
  | m, d :: rest =>
    if m * 10 + d < significandLimit then gatherWhole (m * 10 + d) rest
    else ⟨m, rest.length + 1⟩

/-- Gathers the digits behind the point. From the first digit that does not fit, digits are dropped. -/
def gatherFraction : Gathered → List Nat → Gathered
  | g, [] => g
  | g, d :: rest =>
    if g.significand * 10 + d < significandLimit then
      gatherFraction ⟨g.significand * 10 + d, g.power - 1⟩ rest
    else g

def largestPower : Nat := 308

def powerOfTen? (k : Nat) : Option Binary64 := ofNat? false (Nat.pow 10 k)

/-- Multiplies by `10 ^ power`, rounding at each step. `steps` bounds the divisions by the largest power. -/
def scaleByTen? : Nat → Binary64 → Int → Option Binary64
  | steps, x, power =>
    if power.natAbs ≤ largestPower then do
      let p ← powerOfTen? power.natAbs
      if 0 ≤ power then x.mul? p else x.div? p
    else if x.isZero then some x
    else if 0 ≤ power then none
    else match steps with
      | 0 => some (zero x.negative)
      | steps + 1 => do
        let p ← powerOfTen? largestPower
        let y ← x.div? p
        scaleByTen? steps y (power + largestPower)

/-- The number written by whole digits, fraction digits and an exponent. None when it is too large. -/
def ofLiteral? (negative : Bool) (whole fraction : List Nat) (exponent : Int) : Option Binary64 := do
  let g := gatherFraction (gatherWhole 0 whole) fraction
  let x ← ofNat? negative g.significand
  scaleByTen? 4 x (g.power + exponent)

end ChangeDesk.Binary64
