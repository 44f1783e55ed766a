import ChangeDesk.Proofs.Screen.Area
import ChangeDesk.Screen.Canvas
import Mathlib.Data.List.Basic

/-!
What is to be seen on a canvas. Painting a pane changes no cell above or below it, and a pane of cut lines shows
in each of its inner rows one line, from the scroll position on, whatever was painted in other rows before and is
painted in other rows later.
-/
namespace ChangeDesk.Screen

/-- The glyph that begins `i` cells behind the first cell of a row. -/
def glyphAt? : List Glyph → Nat → Option Glyph
  | [], _ => none
  | g :: rest, i =>
    if g.width = 0 then glyphAt? rest i
    else if i < g.width then if i = 0 then some g else none
    else glyphAt? rest (i - g.width)

def Cell.cover (g : Option Glyph) (cell : Cell) : Cell :=
  match g with
  | some g => cell.put g.symbol g.style
  | none => cell

@[simp] theorem Cell.cover_none : Cell.cover none = id := rfl

@[simp] theorem Cell.cover_some (g : Glyph) : Cell.cover (some g) = Cell.put g.symbol g.style := rfl

theorem Cell.withStyle_unset (cell : Cell) : cell.withStyle .unset = cell := by
  simp [withStyle, Style.unset]

namespace Canvas

variable {P : Nat → Nat → Prop} {c c' c'' : Canvas} {a : Area} {x y i j top stop : Nat}

/-- The cells of these places are as they were. -/
def Keeps (P : Nat → Nat → Prop) (c c' : Canvas) : Prop := ∀ x y, P x y → c'.get? x y = c.get? x y

/-- None of these places is in the rows from `top` up to `stop`. -/
def Clear (P : Nat → Nat → Prop) (top stop : Nat) : Prop := ∀ x y, top ≤ y → y < stop → ¬ P x y

theorem Clear.mono (h : Clear P top stop) {top' stop' : Nat} (htop : top ≤ top') (hstop : stop' ≤ stop) :
    Clear P top' stop' :=
  fun x y hy hy' => h x y (htop.trans hy) (hy'.trans_le hstop)

namespace Keeps

theorem refl (P : Nat → Nat → Prop) (c : Canvas) : Keeps P c c := fun _ _ _ => rfl

theorem trans (h : Keeps P c c') (h' : Keeps P c' c'') : Keeps P c c'' :=
  fun x y hp => (h' x y hp).trans (h x y hp)

/-- What every step keeps is kept by all of them. -/
theorem foldl {α : Type} {f : Canvas → α → Canvas} {l : List α} (h : ∀ c, ∀ s ∈ l, Keeps P c (f c s))
    (c : Canvas) : Keeps P c (l.foldl f c) := by
  induction l generalizing c with
  | nil => exact refl P c
  | cons s rest ih =>
    have hstep := h c s List.mem_cons_self
    exact hstep.trans (ih (fun c t ht => h c t (List.mem_cons_of_mem _ ht)) (f c s))

end Keeps

theorem get?_blank (width height : Nat) (hx : x < width) (hy : y < height) :
    (blank width height).get? x y = some .blank := by
  have hsize : y * width + x < width * height := by
    calc y * width + x < y * width + width := Nat.add_lt_add_left hx _
      _ = (y + 1) * width := (Nat.succ_mul y width).symm
      _ ≤ height * width := Nat.mul_le_mul_right _ hy
      _ = width * height := Nat.mul_comm _ _
  have hinside : x < (blank width height).width ∧ y < (blank width height).height := ⟨hx, hy⟩
  rw [get?, if_pos hinside]
  simp [blank, hsize]

/-- Cells in different places have different positions in the list of all cells. -/
theorem place_inj {width x' y' : Nat} (hx : x < width) (hx' : x' < width)
    (hpos : y * width + x = y' * width + x') : x' = x ∧ y' = y := by
  refine ⟨?_, ?_⟩
  · have hmod := congrArg (· % width) hpos
    simpa [Nat.mul_add_mod', Nat.mod_eq_of_lt hx, Nat.mod_eq_of_lt hx', eq_comm] using hmod
  · have hdiv := congrArg (· / width) hpos
    simpa [Nat.mul_comm _ width, Nat.mul_add_div (Nat.zero_lt_of_lt hx), Nat.div_eq_of_lt hx,
      Nat.div_eq_of_lt hx', eq_comm] using hdiv

theorem get?_modify (x y : Nat) (f : Cell → Cell) (c : Canvas) (x' y' : Nat) :
    (c.modify x y f).get? x' y' = if x' = x ∧ y' = y then (c.get? x y).map f else c.get? x' y' := by
  unfold modify
  split
  · rename_i hin
    simp only [get?, Array.getElem?_modify]
    by_cases hsame : x' = x ∧ y' = y
    · obtain ⟨rfl, rfl⟩ := hsame
      simp [hin]
    · rw [if_neg hsame]
      by_cases hin' : x' < c.width ∧ y' < c.height
      · have hne : y * c.width + x ≠ y' * c.width + x' :=
          fun hpos => hsame (place_inj hin.1 hin'.1 hpos)
        simp only [hin', and_self, ↓reduceIte, if_neg hne]
      · rw [if_neg hin', if_neg hin']
  · rename_i hout
    split
    · rename_i hsame
      rw [hsame.1, hsame.2, get?, if_neg hout, Option.map_none]
    · rfl

/-! What painting keeps. -/

theorem keeps_modify {f : Cell → Cell} (h : P x y → ∀ cell, f cell = cell) (c : Canvas) :
    Keeps P c (c.modify x y f) := by
  intro x' y' hp
  rw [get?_modify]
  split
  · rename_i hsame
    obtain ⟨rfl, rfl⟩ := hsame
    have hf : f = id := funext (h hp)
    rw [hf, Option.map_id_fun, id_eq]
  · rfl

theorem keeps_modifyArea {f : Cell → Cell} (h : ∀ x y, a.contains x y = true → P x y → ∀ cell, f cell = cell)
    (c : Canvas) : Keeps P c (c.modifyArea a f) := by
  refine Keeps.foldl (fun c j hj => Keeps.foldl (fun c i hi => keeps_modify (h _ _ ?_) c) c) c
  have hi := List.mem_range.1 hi
  have hj := List.mem_range.1 hj
  rw [Area.contains_iff]
  omega

/-- A cell in another place may change in any way. -/
theorem keeps_modify_of_not {f : Cell → Cell} (h : ¬ P x y) (c : Canvas) : Keeps P c (c.modify x y f) :=
  keeps_modify (fun hp => absurd hp h) c

theorem keeps_modifyArea_of_not {f : Cell → Cell} (h : ∀ x y, a.contains x y = true → ¬ P x y) (c : Canvas) :
    Keeps P c (c.modifyArea a f) :=
  keeps_modifyArea (fun x y hin hp => absurd hp (h x y hin)) c

theorem keeps_paintRow {gs : List Glyph} (h : ∀ x', x ≤ x' → ¬ P x' y) (c : Canvas) :
    Keeps P c (c.paintRow y x gs) := by
  induction gs generalizing x c with
  | nil => exact .refl P c
  | cons g rest ih =>
    rw [paintRow]
    split
    · exact ih h c
    · exact (keeps_modify_of_not (h x le_rfl) c).trans (ih (fun x' hx => h x' (by omega)) _)

theorem keeps_paintGlyphs {left right : Nat} {first : Bool} {gs : List Glyph} (h : ∀ x, ¬ P x y) (c : Canvas) :
    Keeps P c (c.paintGlyphs left right y first x gs) := by
  induction gs generalizing first x c with
  | nil => exact .refl P c
  | cons g rest ih =>
    have hmodify {x : Nat} {f : Cell → Cell} (c : Canvas) : Keeps P c (c.modify x y f) :=
      keeps_modify_of_not (h x) c
    have hblank (c : Canvas) : Keeps P c (c.modifyArea ⟨x + 1, y, g.width - 1, 1⟩ fun _ => Cell.blank) := by
      refine keeps_modifyArea_of_not (fun x' y' hin => ?_) c
      have hrow : y' = y := by
        simp only [Area.contains_iff] at hin
        omega
      exact hrow ▸ h x'
    rw [paintGlyphs]
    split
    · exact .refl P c
    · refine Keeps.trans (Keeps.trans ?_ (hblank _)) (ih _)
      split
      · exact hmodify c
      · split
        · exact hmodify c
        · split
          · exact hmodify c
          · exact hmodify c

theorem keeps_paintSpans {right : Nat} {l : Line} (h : ∀ x, ¬ P x y) (c : Canvas) :
    Keeps P c (c.paintSpans right y x l) := by
  induction l generalizing x c with
  | nil => exact .refl P c
  | cons s rest ih =>
    rw [paintSpans]
    split
    · exact ih c
    · split
      · exact .refl P c
      · exact (keeps_paintGlyphs h c).trans (ih _)

theorem keeps_paintLine {l : Line} (h : ∀ x, ¬ P x a.y) (c : Canvas) : Keeps P c (c.paintLine a l) := by
  unfold paintLine
  split
  · exact .refl P c
  · exact keeps_paintSpans h c

/-- A border is painted on the cells of the area that are not inside. -/
theorem keeps_paintBorder {s : Style} (hwidth : 0 < a.width) (hheight : 0 < a.height)
    (h : ∀ x y, P x y → a.contains x y = true → a.inner.contains x y = true) (c : Canvas) :
    Keeps P c (c.paintBorder a s) := by
  have hedge {x y : Nat} (hx : a.x ≤ x ∧ x < a.x + a.width) (hy : a.y ≤ y ∧ y < a.y + a.height)
      (hedge : x = a.x ∨ y = a.y ∨ x + 1 = a.x + a.width ∨ y + 1 = a.y + a.height) : ¬ P x y := by
    intro hp
    have hin := h x y hp (Area.contains_iff.2 ⟨hx, hy⟩)
    simp only [Area.contains_iff, Area.inner, Area.right, Area.bottom] at hin
    omega
  have hright : a.right = a.x + a.width := rfl
  have hbottom : a.bottom = a.y + a.height := rfl
  unfold paintBorder
  -- Four lines and then four corners, each of them at an edge.
  refine ((((((Keeps.trans (keeps_modifyArea_of_not ?_ c) (keeps_modifyArea_of_not ?_ _)).trans
    (keeps_modifyArea_of_not ?_ _)).trans (keeps_modifyArea_of_not ?_ _)).trans
    (keeps_modify_of_not ?_ _)).trans (keeps_modify_of_not ?_ _)).trans (keeps_modify_of_not ?_ _)).trans
    (keeps_modify_of_not ?_ _)
  iterate 4
    · intro x y hin
      simp only [Area.contains_iff] at hin
      exact hedge (by omega) (by omega) (by omega)
  iterate 4
    · exact hedge (by omega) (by omega) (by omega)

theorem keeps_paintRows {rows : List (List Glyph)} (h : Clear P a.y (a.y + a.height)) (c : Canvas) :
    Keeps P c (c.paintRows a rows) := by
  refine Keeps.foldl (fun c r hr => keeps_paintRow (fun x _ => ?_) c) c
  have hj := (List.mem_zipIdx' hr).1
  rw [List.length_take] at hj
  exact h x (a.y + r.2) (by omega) (by omega)

theorem keeps_paintLines {lines : List Line} (h : Clear P a.y (a.y + lines.length)) (c : Canvas) :
    Keeps P c (c.paintLines a lines) := by
  refine Keeps.foldl (fun c r hr => keeps_paintLine (fun x => ?_) c) c
  have hj := (List.mem_zipIdx' hr).1
  exact h x (a.y + r.2) (by omega) (by omega)

theorem keeps_paintItems {items : List Item} (h : Clear P y a.bottom) (c : Canvas) :
    Keeps P c (c.paintItems a y items) := by
  induction items generalizing y c with
  | nil => exact .refl P c
  | cons item rest ih =>
    rw [paintItems]
    split
    · exact .refl P c
    · rename_i hfits
      have hrows : y + item.lines.length ≤ a.bottom := Nat.not_lt.1 hfits
      have hitem : Clear P y (y + item.lines.length) := h.mono le_rfl hrows
      have hrest : Clear P (y + item.lines.length) a.bottom := h.mono (Nat.le_add_right ..) le_rfl
      refine (Keeps.trans (keeps_modifyArea_of_not (fun x y' hin => ?_) c) (keeps_paintLines hitem _)).trans
        (ih hrest _)
      simp only [Area.contains_iff] at hin
      exact hitem x y' hin.2.1 hin.2.2

theorem keeps_paintContent {content : Content} (h : Clear P a.y a.bottom) (c : Canvas) :
    Keeps P c (c.paintContent a content) := by
  unfold paintContent
  split
  · exact .refl P c
  · cases content with
    | cut lines scroll => exact keeps_paintRows h c
    | wrapped lines => exact keeps_paintRows h c
    | items items => exact keeps_paintItems h c

/-- The steps in which a pane is painted. -/
theorem paintPane_eq {p : Pane} (h : p.area.isEmpty = false) (c : Canvas) :
    c.paintPane p = (((((if p.clears then c.modifyArea p.area (fun _ => Cell.blank) else c).modifyArea
      p.area (Cell.withStyle p.style)).paintBorder p.area p.border).paintLine
      ⟨p.area.x + 1, p.area.y, p.area.width - 2, 1⟩ p.title).paintContent p.area.inner p.content) := by
  rw [paintPane, h]
  rfl

theorem isEmpty_eq_false_iff : a.isEmpty = false ↔ 0 < a.width ∧ 0 < a.height := by
  simp only [Area.isEmpty, Bool.or_eq_false_iff, beq_eq_false_iff_ne, Nat.pos_iff_ne_zero]

/-- A pane is painted in its rows. -/
theorem keeps_paintPane {p : Pane} (h : Clear P p.area.y p.area.bottom) (c : Canvas) :
    Keeps P c (c.paintPane p) := by
  have hrows : ∀ x y, p.area.contains x y = true → ¬ P x y := by
    intro x y hin
    simp only [Area.contains_iff] at hin
    exact h x y hin.2.1 hin.2.2
  cases hempty : p.area.isEmpty with
  | true =>
    rw [paintPane, hempty]
    exact .refl P c
  | false =>
    obtain ⟨hwidth, hheight⟩ := isEmpty_eq_false_iff.1 hempty
    have hclears : Keeps P c (if p.clears then c.modifyArea p.area (fun _ => Cell.blank) else c) := by
      split
      · exact keeps_modifyArea_of_not hrows c
      · exact .refl P c
    have htitle : ∀ x, ¬ P x p.area.y := fun x => h x _ le_rfl (Nat.lt_add_of_pos_right hheight)
    have hinner : Clear P p.area.inner.y p.area.inner.bottom := by
      refine h.mono ?_ ?_
      · simp only [Area.inner, Area.bottom]
        omega
      · simp only [Area.inner, Area.bottom]
        omega
    rw [paintPane_eq hempty]
    exact (((hclears.trans (keeps_modifyArea_of_not hrows _)).trans
      (keeps_paintBorder hwidth hheight (fun x y hp hin => absurd hp (hrows x y hin)) _)).trans
      (keeps_paintLine (a := ⟨p.area.x + 1, p.area.y, p.area.width - 2, 1⟩) htitle _)).trans
      (keeps_paintContent hinner _)

/-! What painting shows. -/

theorem get?_paintRow (gs : List Glyph) (x y i : Nat) (c : Canvas) :
    (c.paintRow y x gs).get? (x + i) y = (c.get? (x + i) y).map (Cell.cover (glyphAt? gs i)) := by
  induction gs generalizing x i c with
  | nil =>
    simp [paintRow, glyphAt?]
  | cons g rest ih =>
    rw [paintRow, glyphAt?]
    split
    · exact ih x i c
    · split
      · rename_i hin
        have hkept : Keeps (fun x' _ => x' < x + g.width) (c.modify x y (Cell.put g.symbol g.style))
            (paintRow y (x + g.width) rest (c.modify x y (Cell.put g.symbol g.style))) :=
          keeps_paintRow (P := fun x' _ => x' < x + g.width) (fun _ hx => Nat.not_lt.2 hx) _
        rw [hkept (x + i) y (Nat.add_lt_add_left hin x), get?_modify]
        by_cases hi : i = 0
        · subst hi
          simp
        · simp [hi]
      · rename_i hbehind
        have hplace : x + i = x + g.width + (i - g.width) := by omega
        rw [hplace, ih, get?_modify, if_neg (by omega)]

/-- Row after row, each is painted at its place. The first of these rows has the number `k`. -/
theorem get?_foldl_paintRow (rows : List (List Glyph)) (x y i j k : Nat) (c : Canvas) :
    ((rows.zipIdx k).foldl (fun c r => c.paintRow (y + r.2) x r.1) c).get? (x + i) (y + (k + j)) =
      (c.get? (x + i) (y + (k + j))).map (Cell.cover (rows[j]?.bind (glyphAt? · i))) := by
  induction rows generalizing j k c with
  | nil => simp
  | cons gs rest ih =>
    rw [List.zipIdx_cons, List.foldl_cons]
    cases j with
    | zero =>
      -- The rows that follow are painted further down.
      have hbelow : Keeps (fun _ y' => y' < y + (k + 1)) (c.paintRow (y + k) x gs)
          ((rest.zipIdx (k + 1)).foldl (fun c r => c.paintRow (y + r.2) x r.1) (c.paintRow (y + k) x gs)) := by
        refine Keeps.foldl (fun c r hr => keeps_paintRow (fun _ _ => ?_) c) _
        have := (List.mem_zipIdx hr).1
        omega
      rw [hbelow _ _ (by omega)]
      exact get?_paintRow gs x (y + k) i c
    | succ j =>
      have hplace : y + (k + (j + 1)) = y + (k + 1 + j) := by omega
      have hkept : Keeps (fun _ y' => y' ≠ y + k) c (c.paintRow (y + k) x gs) :=
        keeps_paintRow (fun _ _ hne => hne rfl) c
      rw [hplace, ih, hkept _ _ (by omega)]
      rfl

/-- A row of an area shows a line, cut at the width, and nothing beside it. -/
def ShowsLine (c : Canvas) (a : Area) (j : Nat) (l : Line) : Prop :=
  ∀ i < a.width, c.get? (a.x + i) (a.y + j) = some (Cell.cover (glyphAt? (cutRow a.width l) i) .blank)

/-- On blank rows, a scrolled text shows its lines from the scroll position on. -/
theorem showsLine_paintContent {lines : List Line} {scroll : Nat} (hj : j < a.height)
    (hblank : ∀ i < a.width, c.get? (a.x + i) (a.y + j) = some .blank) :
    (c.paintContent a (.cut lines scroll)).ShowsLine a j (lines[scroll + j]?.getD []) := by
  intro i hi
  have hcells : a.isEmpty = false := isEmpty_eq_false_iff.2 ⟨Nat.zero_lt_of_lt hi, Nat.zero_lt_of_lt hj⟩
  have hrow : ((((lines.drop scroll).take a.height).map (cutRow a.width)).take a.height)[j]? =
      lines[scroll + j]?.map (cutRow a.width) := by
    simp [hj, List.getElem?_drop]
  have hpainted := get?_foldl_paintRow
    ((((lines.drop scroll).take a.height).map (cutRow a.width)).take a.height) a.x a.y i j 0 c
  rw [hrow, Nat.zero_add, hblank i hi, Option.map_some] at hpainted
  rw [paintContent, hcells]
  refine hpainted.trans ?_
  cases lines[scroll + j]? with
  | none => rfl
  | some l => rfl

end Canvas

def Pane.Misses (p : Pane) (y : Nat) : Prop := y < p.area.y ∨ p.area.bottom ≤ y

namespace Canvas

variable {c : Canvas} {p : Pane} {lines : List Line} {scroll j y : Nat}

/-- Panes that have no cell in a row leave it as it is. -/
theorem keeps_paintPanes {panes : List Pane} (h : ∀ p ∈ panes, p.Misses y) (c : Canvas) :
    Keeps (fun _ y' => y' = y) c (panes.foldl paintPane c) := by
  refine Keeps.foldl (fun c p hp => keeps_paintPane (fun x y' htop hstop hrow => ?_) c) c
  have := h p hp
  unfold Pane.Misses at this
  omega

/-- A pane of text shows its lines in its inner rows, from the scroll position on. -/
theorem showsLine_paintPane (hstyle : p.style = .unset) (hclears : p.clears = false)
    (hcontent : p.content = .cut lines scroll) (hj : j < p.area.inner.height)
    (hblank : ∀ i < p.area.inner.width, c.get? (p.area.inner.x + i) (p.area.inner.y + j) = some .blank) :
    (c.paintPane p).ShowsLine p.area.inner j (lines[scroll + j]?.getD []) := by
  intro i hi
  have hwidth : i < p.area.width - 2 := hi
  have hheight : j < p.area.height - 2 := hj
  have hempty : p.area.isEmpty = false := isEmpty_eq_false_iff.2 ⟨by omega, by omega⟩
  have hplace : p.area.inner.y = p.area.y + 1 := by
    simp only [Area.inner, Area.bottom]
    omega
  rw [paintPane_eq hempty, hclears, hstyle, hcontent]
  refine showsLine_paintContent hj (fun i hi => ?_) i hi
  let P : Nat → Nat → Prop := fun x y => p.area.inner.contains x y = true
  have hstyled : Keeps P c (c.modifyArea p.area (Cell.withStyle .unset)) :=
    keeps_modifyArea (fun _ _ _ _ => Cell.withStyle_unset) c
  have hbordered := keeps_paintBorder (P := P) (s := p.border) (isEmpty_eq_false_iff.1 hempty).1
    (isEmpty_eq_false_iff.1 hempty).2 (fun _ _ hp _ => hp) (c.modifyArea p.area (Cell.withStyle .unset))
  have htitled : ∀ c, Keeps P c (c.paintLine ⟨p.area.x + 1, p.area.y, p.area.width - 2, 1⟩ p.title) := by
    refine keeps_paintLine (fun x hp => ?_)
    simp only [P, Area.contains_iff, hplace] at hp
    omega
  have hin : P (p.area.inner.x + i) (p.area.inner.y + j) :=
    Area.contains_iff.2 ⟨by omega, by omega⟩
  exact (((hstyled.trans hbordered).trans (htitled _)) _ _ hin).trans (hblank i hi)

end Canvas

end ChangeDesk.Screen
