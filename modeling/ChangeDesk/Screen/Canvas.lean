import ChangeDesk.Screen.Area
import ChangeDesk.Screen.Line
import ChangeDesk.Text.Basic

/-!
What a screen is composed of, and the painting of it on a grid of cells. A screen is composed of bordered
panes, each with a title and a content: text, cut or broken at the width of the pane, or a list of items.
-/

namespace ChangeDesk.Screen

/-- An item of a list: its lines, and the style of the whole rows in which it stands. -/
structure Item where
  lines : List Line
  style : Style
deriving DecidableEq, Repr

inductive Content where
  /-- Lines cut at the width, without the first `scroll` of them. -/
  | cut (lines : List Line) (scroll : Nat)
  /-- Lines broken into rows. -/
  | wrapped (lines : List Line)
  /-- As many items as there is room for. -/
  | items (items : List Item)
deriving DecidableEq, Repr

structure Pane where
  area : Area
  title : Line
  content : Content
  style : Style
  border : Style
  /-- Whether the pane hides what was drawn below it. -/
  clears : Bool
deriving DecidableEq, Repr

/-- A line in one style; line feeds in the text do not show. -/
def styledLine (style : Style) (text : String) : Line := (Text.lines text).map (fun l => ⟨l, style⟩)

def plainLine (text : String) : Line := styledLine .unset text

/-- The lines of a plain text, at least one. -/
def plainLines (text : String) : List Line :=
  if text.isEmpty then [[]] else (Text.lines text).map (fun l => [⟨l, .unset⟩])

namespace Pane

def plain (area : Area) (title : String) (content : Content) : Pane :=
  ⟨area, plainLine title, content, .unset, .unset, false⟩

end Pane

/-!
## The grid

A grid of cells and the painting of panes on it. Painting outside the grid changes nothing.
-/

structure Cell where
  symbol : List Char
  colour : Colour
  bold : Bool
deriving DecidableEq, Repr

namespace Cell

def blank : Cell := ⟨[' '], .plain, false⟩

instance : Inhabited Cell := ⟨blank⟩

def withStyle (s : Style) (c : Cell) : Cell :=
  { c with colour := s.colour.getD c.colour, bold := c.bold || s.bold }

def put (symbol : List Char) (s : Style) (c : Cell) : Cell := withStyle s { c with symbol := symbol }

end Cell

/-- A grid of cells, row by row. -/
structure Canvas where
  width : Nat
  height : Nat
  cells : Array Cell
  size_cells : cells.size = width * height

namespace Canvas

def blank (width height : Nat) : Canvas :=
  ⟨width, height, Array.replicate (width * height) .blank, Array.size_replicate⟩

def get? (c : Canvas) (x y : Nat) : Option Cell :=
  if x < c.width ∧ y < c.height then c.cells[y * c.width + x]? else none

def modify (x y : Nat) (f : Cell → Cell) (c : Canvas) : Canvas :=
  if x < c.width ∧ y < c.height then
    { c with
      cells := c.cells.modify (y * c.width + x) f
      size_cells := by rw [Array.size_modify, c.size_cells] }
  else c

def modifyArea (a : Area) (f : Cell → Cell) (c : Canvas) : Canvas :=
  (List.range a.height).foldl (fun c j =>
    (List.range a.width).foldl (fun c i => c.modify (a.x + i) (a.y + j) f) c) c

def rowText (c : Canvas) (y : Nat) : String :=
  String.ofList ((List.range c.width).flatMap fun x => ((c.get? x y).map Cell.symbol).getD [])

def rows (c : Canvas) : List String := (List.range c.height).map c.rowText

/-- Paints glyphs side by side from column `x` on. -/
def paintRow (y : Nat) : Nat → List Glyph → Canvas → Canvas
  | _, [], c => c
  | x, g :: rest, c =>
    if g.width = 0 then paintRow y x rest c
    else paintRow y (x + g.width) rest (c.modify x y (Cell.put g.symbol g.style))

/-- Paints glyphs from column `x` on for as long as they fit between `left` and `right`. A glyph without width
joins the cell before it, or the first cell. -/
def paintGlyphs (left right y : Nat) : Bool → Nat → List Glyph → Canvas → Canvas
  | _, _, [], c => c
  | first, x, g :: rest, c =>
    if right < x + g.width then c
    else
      let join (cell : Cell) : Cell := cell.put (cell.symbol ++ g.symbol) g.style
      let c :=
        if first then c.modify x y (Cell.put g.symbol g.style)
        else if x = left then c.modify x y join
        else if g.width = 0 then c.modify (x - 1) y join
        else c.modify x y (Cell.put g.symbol g.style)
      -- what else a wide glyph covers does not show through
      let c := c.modifyArea ⟨x + 1, y, g.width - 1, 1⟩ (fun _ => Cell.blank)
      paintGlyphs left right y false (x + g.width) rest c

/-- Paints the spans of a line from column `x` on. Spans without width do not show. -/
def paintSpans (right y : Nat) : Nat → Line → Canvas → Canvas
  | _, [], c => c
  | x, s :: rest, c =>
    let width := Text.width s.text.toList
    if width = 0 then paintSpans right y x rest c
    else if right ≤ x then c
    else paintSpans right y (x + width) rest
      (c.paintGlyphs x right y true x (glyphsOf s.style s.text))

def paintLine (a : Area) (l : Line) (c : Canvas) : Canvas :=
  if a.isEmpty then c else c.paintSpans a.right a.y a.x l

def paintBorder (a : Area) (s : Style) (c : Canvas) : Canvas :=
  let right := a.right - 1
  let bottom := a.bottom - 1
  let line (b : Area) (symbol : Char) (c : Canvas) : Canvas := c.modifyArea b (Cell.put [symbol] s)
  let corner (x y : Nat) (symbol : Char) (c : Canvas) : Canvas := c.modify x y (Cell.put [symbol] s)
  -- the corners come last and in this order, since in a narrow area they share cells
  c |> line ⟨a.x, a.y, 1, a.height⟩ '│'
    |> line ⟨a.x, a.y, a.width, 1⟩ '─'
    |> line ⟨right, a.y, 1, a.height⟩ '│'
    |> line ⟨a.x, bottom, a.width, 1⟩ '─'
    |> corner right bottom '┘'
    |> corner right a.y '┐'
    |> corner a.x bottom '└'
    |> corner a.x a.y '┌'

def paintRows (a : Area) (rows : List (List Glyph)) (c : Canvas) : Canvas :=
  (rows.take a.height).zipIdx.foldl (fun c (row, j) => c.paintRow (a.y + j) a.x row) c

def paintLines (a : Area) (lines : List Line) (c : Canvas) : Canvas :=
  lines.zipIdx.foldl (fun c (l, j) => c.paintLine (a.row j) l) c

/-- Paints items below each other from row `y` of an area on, for as long as a whole item fits. -/
def paintItems (a : Area) : Nat → List Item → Canvas → Canvas
  | _, [], c => c
  | y, item :: rest, c =>
    let rows : Area := ⟨a.x, y, a.width, item.lines.length⟩
    if a.bottom < rows.bottom then c
    else paintItems a rows.bottom rest
      ((c.modifyArea rows (Cell.withStyle item.style)).paintLines rows item.lines)

def paintContent (a : Area) (content : Content) (c : Canvas) : Canvas :=
  if a.isEmpty then c
  else match content with
    | .cut lines scroll =>
      c.paintRows a (((lines.drop scroll).take a.height).map (cutRow a.width))
    | .wrapped lines => c.paintRows a (lines.flatMap (wrapRows a.width))
    | .items items => c.paintItems a a.y items

/-- Paints a pane: its style, its border, its title in the border, and its content. -/
def paintPane (c : Canvas) (p : Pane) : Canvas :=
  if p.area.isEmpty then c
  else
    let c := if p.clears then c.modifyArea p.area (fun _ => Cell.blank) else c
    let titleArea : Area := ⟨p.area.x + 1, p.area.y, p.area.width - 2, 1⟩
    ((c.modifyArea p.area (Cell.withStyle p.style)).paintBorder p.area p.border)
      |>.paintLine titleArea p.title
      |>.paintContent p.area.inner p.content

end Canvas

end ChangeDesk.Screen
