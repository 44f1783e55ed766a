import ChangeDesk.Text.Basic
import ChangeDesk.Text.Cluster

/-!
Styled lines, and how they are laid out in rows of a limited width. A line is made of spans in one style each.
-/

namespace ChangeDesk.Screen

inductive Colour where
  /-- The colour that the terminal gives to plain text. -/
  | plain
  | green
  | red
  | yellow
  | cyan
  | darkGray
  /-- A colour of the syntax theme. -/
  | theme
deriving DecidableEq, Repr

structure Style where
  colour : Option Colour
  bold : Bool
deriving DecidableEq, Repr

namespace Style

def unset : Style := ⟨none, false⟩

def ofColour (c : Colour) : Style := ⟨some c, false⟩

def strong (c : Colour) : Style := ⟨some c, true⟩

end Style

structure Span where
  text : String
  style : Style
deriving DecidableEq, Repr

abbrev Line := List Span

/-!
## Layout

Laying out styled lines in rows of a limited width. A row is a list of glyphs, each of which takes the cells
of one cluster. A line is either cut at the width or broken into several rows, at white space where there is
some and inside a word otherwise.
-/

structure Glyph where
  symbol : List Char
  width : Nat
  style : Style
deriving DecidableEq, Repr

namespace Glyph

/-- A space that allows a break and has no width. -/
def breakMark : List Char := ['\u200b']

def hardSpace : List Char := ['\u00a0']

/-- Whether a line may be broken at the glyph. -/
def isSpace (g : Glyph) : Bool :=
  g.symbol == breakMark || (g.symbol.all Text.isSpace && g.symbol != hardSpace)

def total (gs : List Glyph) : Nat := gs.foldr (fun g n => g.width + n) 0

end Glyph

/-- The glyphs of a text in one style. Line feeds have none. -/
def glyphsOf (style : Style) (text : String) : List Glyph :=
  ((Text.clusters text.toList).filter (· ≠ ['\n'])).map fun c => ⟨c, Text.clusterWidth c, style⟩

def lineGlyphs (l : Line) : List Glyph := l.flatMap (fun s => glyphsOf s.style s.text)

/-- As many glyphs as fit into the room. Those wider than `limit` are left out. -/
def cut (limit : Nat) : Nat → List Glyph → List Glyph
  | _, [] => []
  | room, g :: rest =>
    if limit < g.width then cut limit room rest
    else if room < g.width then []
    else g :: cut limit (room - g.width) rest

def cutRow (limit : Nat) (l : Line) : List Glyph := cut limit limit (lineGlyphs l)

/-- The state of breaking a line: the rows that are done, last row first, the row that is being filled, and
behind it white space and a word that do not belong to it yet. -/
structure Wrapping where
  done : List (List Glyph)
  row : List Glyph
  space : List Glyph
  word : List Glyph
  /-- Whether the glyph before was part of a word. -/
  inWord : Bool

namespace Wrapping

def start : Wrapping := ⟨[], [], [], [], false⟩

/-- Takes the pending white space and the pending word into the row. -/
def commit (w : Wrapping) : Wrapping :=
  { w with row := w.row ++ w.space ++ w.word, space := [], word := [] }

def append (g : Glyph) (w : Wrapping) : Wrapping :=
  if g.isSpace then { w with space := w.space ++ [g], inWord := false }
  else { w with word := w.word ++ [g], inWord := true }

/-- Glyphs without those at the start that fit into the room. -/
def dropFitting : Nat → List Glyph → List Glyph
  | _, [] => []
  | room, g :: rest => if room < g.width then g :: rest else dropFitting (room - g.width) rest

/-- Ends the row. Pending white space that would still have fitted into it is dropped. -/
def breakRow (limit : Nat) (w : Wrapping) : Wrapping :=
  { w with
    done := w.row :: w.done
    row := []
    space := dropFitting (limit - Glyph.total w.row) w.space }

/-- Whether the pending parts go into the row before a glyph: at the end of a word, and where a row that is
still empty would overflow. -/
def commits (limit : Nat) (w : Wrapping) (g : Glyph) : Bool :=
  (w.inWord && g.isSpace) ||
    (w.row.isEmpty && limit < Glyph.total w.word + Glyph.total w.space + g.width)

def breaks (limit : Nat) (w : Wrapping) (g : Glyph) : Bool :=
  limit ≤ Glyph.total w.row ||
    (0 < g.width && limit ≤ Glyph.total w.row + Glyph.total w.space + Glyph.total w.word)

/-- Takes in a glyph. One wider than a row is left out, and so is the white space at which a row breaks. -/
def step (limit : Nat) (w : Wrapping) (g : Glyph) : Wrapping :=
  if limit < g.width then w
  else
    let w := if w.commits limit g then w.commit else w
    if w.breaks limit g then
      let w := w.breakRow limit
      if g.isSpace && w.space.isEmpty then w else w.append g
    else w.append g

/-- The rows in order, at least one. White space alone stands in a row behind an empty one. -/
def finish (w : Wrapping) : List (List Glyph) :=
  let done := if w.row.isEmpty && w.word.isEmpty && !w.space.isEmpty then [] :: w.done else w.done
  let last := w.row ++ w.space ++ w.word
  let done := if last.isEmpty then done else last :: done
  if done.isEmpty then [[]] else done.reverse

end Wrapping

def wrapRows (limit : Nat) (l : Line) : List (List Glyph) :=
  ((lineGlyphs l).foldl (Wrapping.step limit) .start).finish

end ChangeDesk.Screen
