/-!
Rectangles of cells and the ways in which the screen is divided into them. Coordinates are counted from the
upper left corner.
-/
namespace ChangeDesk.Screen

structure Area where
  x : Nat
  y : Nat
  width : Nat
  height : Nat
deriving DecidableEq, Repr

namespace Area

/-- The first column to the right of the area. -/
def right (a : Area) : Nat := a.x + a.width

def bottom (a : Area) : Nat := a.y + a.height

def isEmpty (a : Area) : Bool := a.width == 0 || a.height == 0

def contains (a : Area) (x y : Nat) : Bool :=
  (a.x ≤ x && x < a.right) && (a.y ≤ y && y < a.bottom)

def row (a : Area) (n : Nat) : Area := ⟨a.x, a.y + n, a.width, 1⟩

def inner (a : Area) : Area :=
  ⟨min (a.x + 1) a.right, min (a.y + 1) a.bottom, a.width - 2, a.height - 2⟩

/-- The heights of head, body and foot. Head and foot take three rows each and the body the rest; on a
screen that is too low the body keeps one row, and then the head gets a row, then the foot. -/
def frameHeights (total : Nat) : Nat × Nat × Nat :=
  match total with
  | 0 => (0, 0, 0)
  | 1 => (0, 1, 0)
  | 2 => (1, 1, 0)
  | 3 => (1, 1, 1)
  | 4 => (1, 1, 2)
  | 5 => (1, 1, 3)
  | 6 => (2, 1, 3)
  | _ => (3, total - 6, 3)

def frame (a : Area) : Area × Area × Area :=
  let (head, body, foot) := frameHeights a.height
  (⟨a.x, a.y, a.width, head⟩, ⟨a.x, a.y + head, a.width, body⟩,
    ⟨a.x, a.y + head + body, a.width, foot⟩)

/-- The area above, and below it at most `rows` rows that leave one to the area above. -/
def splitBottom (rows : Nat) (a : Area) : Area × Area :=
  let low := min rows (a.height - 1)
  (⟨a.x, a.y, a.width, a.height - low⟩, ⟨a.x, a.y + (a.height - low), a.width, low⟩)

/-- A share of a length in percent, a half rounded up. -/
def share (percent total : Nat) : Nat := (2 * total * percent + 100) / 200

def splitColumns (percent : Nat) (a : Area) : Area × Area :=
  let left := share percent a.width
  (⟨a.x, a.y, left, a.height⟩, ⟨a.x + left, a.y, a.width - left, a.height⟩)

def splitRows (percent : Nat) (a : Area) : Area × Area :=
  let upper := share percent a.height
  (⟨a.x, a.y, a.width, upper⟩, ⟨a.x, a.y + upper, a.width, a.height - upper⟩)

/-- Where the middle part of a length begins and ends: the rest is divided into halves of whole percents. -/
def middle (percent total : Nat) : Nat × Nat :=
  let side := (100 - percent) / 2
  (share side total, share (side + percent) total)

def centered (percentX percentY : Nat) (a : Area) : Area :=
  let (left, right) := middle percentX a.width
  let (top, bottom) := middle percentY a.height
  ⟨a.x + left, a.y + top, right - left, bottom - top⟩

def coordinateLimit : Nat := 65535

/-- A coordinate behind a border at `start`, `offset` cells further on, but at most two cells before `stop`. No
coordinate exceeds the limit. -/
def clampOffset (start offset stop : Nat) : Nat :=
  min (min (start + 1 + min offset coordinateLimit) coordinateLimit) (stop - 2)

/-- The cell of a cursor inside the border of an area, clamped to the inner cells. -/
def cursorIn (a : Area) (column row : Nat) : Nat × Nat :=
  (clampOffset a.x column a.right, clampOffset a.y row a.bottom)

end Area

end ChangeDesk.Screen
