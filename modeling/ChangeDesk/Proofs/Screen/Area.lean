import ChangeDesk.Screen.Area
import Mathlib.Order.Lattice

/-!
The cell of a cursor in a bordered area. It is the cell at the column and the row if that is inside the border, and
otherwise the last inner cell in the direction in which it goes too far. Coordinates have 16 bits: computed in words
of this size, in which a sum that wraps around and a number without a word of its own become the largest word, it
comes out the same, however far the column and the row are.
-/
namespace ChangeDesk.Screen

structure WordArea where
  x : UInt16
  y : UInt16
  width : UInt16
  height : UInt16
deriving DecidableEq, Repr

namespace WordArea

/-- The sum of two words, or the largest word if it wraps around. -/
def add (a b : UInt16) : UInt16 := if a + b < a then 65535 else a + b

def sub (a b : UInt16) : UInt16 := if a < b then 0 else a - b

/-- The word of a number, or the largest word if it has none. -/
def word (n : Nat) : UInt16 := if n < UInt16.size then UInt16.ofNat n else 65535

def right (a : WordArea) : UInt16 := add a.x a.width

def bottom (a : WordArea) : UInt16 := add a.y a.height

def clamp (start : UInt16) (offset : Nat) (stop : UInt16) : UInt16 :=
  min (add (add start 1) (word offset)) (sub stop 2)

def cursorIn (a : WordArea) (column row : Nat) : UInt16 × UInt16 :=
  (clamp a.x column a.right, clamp a.y row a.bottom)

def area (a : WordArea) : Area := ⟨a.x.toNat, a.y.toNat, a.width.toNat, a.height.toNat⟩

/-- Sums stop at the largest word, so that none has wrapped around. -/
theorem toNat_add (a b : UInt16) : (add a b).toNat = min (a.toNat + b.toNat) Area.coordinateLimit := by
  have ha := a.toNat_lt
  have hb := b.toNat_lt
  have hsum : (a + b).toNat = (a.toNat + b.toNat) % 65536 := UInt16.toNat_add a b
  have hlargest : (65535 : UInt16).toNat = 65535 := rfl
  unfold add Area.coordinateLimit
  split
  · rename_i hwraps
    rw [UInt16.lt_iff_toNat_lt, hsum] at hwraps
    rw [hlargest]
    omega
  · rename_i hfits
    rw [UInt16.lt_iff_toNat_lt, hsum] at hfits
    rw [hsum]
    omega

theorem toNat_sub (a b : UInt16) : (sub a b).toNat = a.toNat - b.toNat := by
  unfold sub
  split
  · rename_i hwraps
    rw [UInt16.lt_iff_toNat_lt] at hwraps
    rw [UInt16.toNat_zero]
    omega
  · rename_i hfits
    exact UInt16.toNat_sub_of_le _ _ (UInt16.not_lt.1 hfits)

theorem toNat_word (n : Nat) : (word n).toNat = min n Area.coordinateLimit := by
  unfold word Area.coordinateLimit
  split
  · rename_i hfits
    rw [UInt16.toNat_ofNat_of_lt' hfits]
    rw [UInt16.size] at hfits
    omega
  · rename_i hlarge
    rw [UInt16.size] at hlarge
    have hlargest : (65535 : UInt16).toNat = 65535 := rfl
    rw [hlargest]
    omega

theorem toNat_min (a b : UInt16) : (min a b).toNat = min a.toNat b.toNat := by
  change (if a ≤ b then a else b).toNat = _
  split
  · rename_i h
    exact (Nat.min_eq_left h).symm
  · rename_i h
    rw [UInt16.not_le, UInt16.lt_iff_toNat_lt] at h
    exact (Nat.min_eq_right (Nat.le_of_lt h)).symm

theorem toNat_clamp (start : UInt16) (offset : Nat) (stop : UInt16) :
    (clamp start offset stop).toNat = Area.clampOffset start.toNat offset stop.toNat := by
  have hone : (1 : UInt16).toNat = 1 := rfl
  have htwo : (2 : UInt16).toNat = 2 := rfl
  have hsum : (add (add start 1) (word offset)).toNat =
      min (start.toNat + 1 + min offset Area.coordinateLimit) Area.coordinateLimit := by
    rw [toNat_add, toNat_add, toNat_word, hone]
    generalize start.toNat = n
    unfold Area.coordinateLimit
    omega
  rw [clamp, toNat_min, hsum, toNat_sub, htwo, Area.clampOffset]

/-- Words and numbers agree on a cursor, as long as the edges of the rectangle are words. -/
theorem toNat_cursorIn {a : WordArea} (hright : a.area.right ≤ Area.coordinateLimit)
    (hbottom : a.area.bottom ≤ Area.coordinateLimit) (column row : Nat) :
    (a.cursorIn column row).map UInt16.toNat UInt16.toNat = a.area.cursorIn column row := by
  have hr : a.right.toNat = a.area.right := (toNat_add _ _).trans (Nat.min_eq_left hright)
  have hb : a.bottom.toNat = a.area.bottom := (toNat_add _ _).trans (Nat.min_eq_left hbottom)
  rw [cursorIn, Prod.map_apply, toNat_clamp, toNat_clamp, hr, hb]
  rfl

end WordArea

namespace Area

variable {a : Area} {start stop x y : Nat}

/-- Between edges within the limit, an offset that goes too far is taken back to the last inner cell. -/
theorem clampOffset_eq (hstart : start + 3 ≤ stop) (hstop : stop ≤ coordinateLimit) (offset : Nat) :
    clampOffset start offset stop = min (start + 1 + offset) (stop - 2) := by
  unfold clampOffset
  omega

theorem contains_iff :
    a.contains x y = true ↔ (a.x ≤ x ∧ x < a.x + a.width) ∧ a.y ≤ y ∧ y < a.y + a.height := by
  simp only [contains, Bool.and_eq_true, decide_eq_true_eq]
  exact Iff.rfl

/-- The cells inside the border. -/
theorem contains_inner (hwidth : 2 ≤ a.width) (hheight : 2 ≤ a.height) :
    a.inner.contains x y = true ↔ (a.x < x ∧ x + 1 < a.right) ∧ a.y < y ∧ y + 1 < a.bottom := by
  rw [contains_iff]
  simp only [inner, right, bottom]
  omega

theorem cursorIn_eq (hwidth : 3 ≤ a.width) (hheight : 3 ≤ a.height) (hright : a.right ≤ coordinateLimit)
    (hbottom : a.bottom ≤ coordinateLimit) (column row : Nat) :
    a.cursorIn column row = (min (a.x + 1 + column) (a.right - 2), min (a.y + 1 + row) (a.bottom - 2)) := by
  have hcolumns : a.x + 3 ≤ a.right := Nat.add_le_add_left hwidth a.x
  have hrows : a.y + 3 ≤ a.bottom := Nat.add_le_add_left hheight a.y
  rw [cursorIn, clampOffset_eq hcolumns hright, clampOffset_eq hrows hbottom]

theorem contains_cursorIn (hwidth : 3 ≤ a.width) (hheight : 3 ≤ a.height) (hright : a.right ≤ coordinateLimit)
    (hbottom : a.bottom ≤ coordinateLimit) (column row : Nat) :
    a.inner.contains (a.cursorIn column row).1 (a.cursorIn column row).2 = true := by
  rw [cursorIn_eq hwidth hheight hright hbottom, contains_inner (by omega) (by omega)]
  simp only [right, bottom]
  omega

end Area

/-- In a rectangle of at least three cells each way whose edges are words, a cursor stands inside the border. On
each axis by itself it is where its column or its row says, or at the last inner cell if that is too far, so it is
at its place whenever this place is inside, and never goes back when the column or the row grows. All of this is
computed in words. -/
theorem cursor_clamped (a : WordArea) (hwidth : 3 ≤ a.area.width) (hheight : 3 ≤ a.area.height)
    (hright : a.area.right ≤ Area.coordinateLimit) (hbottom : a.area.bottom ≤ Area.coordinateLimit) :
    Monotone (fun place : Nat × Nat => a.area.cursorIn place.1 place.2) ∧
    ∀ column row, ∃ x y, a.area.cursorIn column row = (x, y) ∧
      (a.cursorIn column row).map UInt16.toNat UInt16.toNat = (x, y) ∧
      a.area.inner.contains x y = true ∧
      x = min (a.area.x + 1 + column) (a.area.right - 2) ∧
      y = min (a.area.y + 1 + row) (a.area.bottom - 2) ∧
      (a.area.inner.contains (a.area.x + 1 + column) (a.area.y + 1 + row) = true →
        (x, y) = (a.area.x + 1 + column, a.area.y + 1 + row)) := by
  have heq := Area.cursorIn_eq hwidth hheight hright hbottom
  refine ⟨fun place place' hle => ?_, fun column row => ?_⟩
  · obtain ⟨hcolumn, hrow⟩ := hle
    simp only [heq]
    exact ⟨inf_le_inf_right _ (Nat.add_le_add_left hcolumn _),
      inf_le_inf_right _ (Nat.add_le_add_left hrow _)⟩
  · have hinside := Area.contains_cursorIn hwidth hheight hright hbottom column row
    have hwords := WordArea.toNat_cursorIn hright hbottom column row
    rw [heq] at hinside hwords
    refine ⟨_, _, heq column row, hwords, hinside, rfl, rfl, fun hplace => ?_⟩
    rw [Area.contains_inner (by omega) (by omega)] at hplace
    rw [Prod.mk.injEq]
    omega

/-- A rectangle that ends at the largest word, and a cursor far behind it: two inner columns and one inner row. -/
theorem cursor_clamped_at_edge :
    let a : WordArea := ⟨65531, 65532, 4, 3⟩
    3 ≤ a.area.width ∧ 3 ≤ a.area.height ∧ a.area.right ≤ Area.coordinateLimit ∧
      a.area.bottom ≤ Area.coordinateLimit ∧ a.area.cursorIn 4294967296 7 = (65533, 65533) ∧
      a.cursorIn 4294967296 7 = (65533, 65533) := by
  intro a
  have hwidth : 3 ≤ a.area.width := by decide
  have hheight : 3 ≤ a.area.height := by decide
  have hright : a.area.right ≤ Area.coordinateLimit := by decide
  have hbottom : a.area.bottom ≤ Area.coordinateLimit := by decide
  obtain ⟨-, hcursor⟩ := cursor_clamped a hwidth hheight hright hbottom
  obtain ⟨x, y, hnumbers, hwords, -, hx, hy, -⟩ := hcursor 4294967296 7
  obtain rfl : x = 65533 := hx.trans (by decide)
  obtain rfl : y = 65533 := hy.trans (by decide)
  refine ⟨hwidth, hheight, hright, hbottom, hnumbers, ?_⟩
  obtain ⟨hcolumn, hrow⟩ := Prod.mk.inj hwords
  exact Prod.ext (UInt16.toNat_inj.1 hcolumn) (UInt16.toNat_inj.1 hrow)

end ChangeDesk.Screen
