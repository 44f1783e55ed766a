import ChangeDesk.Diff
import Mathlib.Data.List.TakeWhile

/-!
The lines of a text, said without the way they are found. Every line is a body in which no line ends,
followed by its terminator; only a last line may lack one. Cutting a text finds exactly these lines.
-/
namespace ChangeDesk.Diff

structure TextLine where
  body : List Char
  stop : List Char
deriving DecidableEq, Repr

def TextLine.chars (l : TextLine) : List Char := l.body ++ l.stop

def Unbroken (cs : List Char) : Prop := ∀ c ∈ cs, c ≠ '\n' ∧ c ≠ '\r'

/-- What ends a line in front of a rest. A carriage return stands alone only if no line feed follows. -/
inductive Terminator : List Char → List Char → Prop where
  | crlf (rest : List Char) : Terminator ['\r', '\n'] rest
  | lf (rest : List Char) : Terminator ['\n'] rest
  | cr (rest : List Char) (h : rest.head? ≠ some '\n') : Terminator ['\r'] rest

inductive HasLines : List Char → List TextLine → Prop where
  | nil : HasLines [] []
  | unended (body : List Char) (hne : body ≠ []) (hb : Unbroken body) : HasLines body [⟨body, []⟩]
  | ended {body stop rest : List Char} {ls : List TextLine} (hb : Unbroken body)
      (ht : Terminator stop rest) (hr : HasLines rest ls) :
      HasLines (body ++ (stop ++ rest)) (⟨body, stop⟩ :: ls)

/-- Joining the lines gives the text back. -/
theorem flatMap_chars_of_hasLines {cs : List Char} {ls : List TextLine} (h : HasLines cs ls) :
    ls.flatMap TextLine.chars = cs := by
  induction h with
  | nil => rfl
  | unended body _ _ => simp [TextLine.chars]
  | ended _ _ _ ih => simp [TextLine.chars, ih]

/-- The shape of a single line of a text. -/
def TextLine.Proper (l : TextLine) : Prop :=
  Unbroken l.body ∧ (l.stop = [] ∨ l.stop = ['\r', '\n'] ∨ l.stop = ['\n'] ∨ l.stop = ['\r'])

theorem proper_of_hasLines {cs : List Char} {ls : List TextLine} (h : HasLines cs ls) :
    ∀ l ∈ ls, l.Proper := by
  induction h with
  | nil => simp
  | unended body _ hb => simpa using ⟨hb, .inl rfl⟩
  | ended hb ht _ ih =>
    intro l hl
    rcases List.mem_cons.mp hl with rfl | hl
    · refine ⟨hb, ?_⟩
      cases ht <;> simp
    · exact ih l hl

def endsLine (c : Char) : Bool := c = '\n' ∨ c = '\r'

theorem endsLine_of_unbroken {cs : List Char} (h : Unbroken cs) : ∀ c ∈ cs, endsLine c = false := by
  intro c hc
  simp [endsLine, h c hc]

theorem endsLine_of_mem_stop {l : TextLine} (h : l.Proper) : ∀ c ∈ l.stop, endsLine c = true := by
  intro c hc
  rcases h.2 with hs | hs | hs | hs <;> simp_all [endsLine, or_comm]

/-- The body of a line is what the diff shows of it. -/
theorem lineText_chars {l : TextLine} (h : l.Proper) :
    lineText (String.ofList l.chars) = String.ofList l.body := by
  have hstop : (l.stop.reverse).dropWhile endsLine = [] := by
    rw [List.dropWhile_eq_nil_iff]
    intro c hc
    exact endsLine_of_mem_stop h c (List.mem_reverse.mp hc)
  have hbody : (l.body.reverse).dropWhile endsLine = l.body.reverse := by
    cases hr : l.body.reverse with
    | nil => rfl
    | cons c rest =>
      have hc : c ∈ l.body := List.mem_reverse.mp (hr ▸ List.mem_cons_self)
      rw [List.dropWhile_cons_of_neg]
      simp [endsLine_of_unbroken h.1 c hc]
  change String.ofList (Text.dropEndWhile endsLine (String.ofList l.chars).toList) = _
  rw [String.toList_ofList, TextLine.chars, Text.dropEndWhile, List.reverse_append,
    List.dropWhile_append, hstop]
  simp [hbody]

/-- Two lines of texts with the same characters are the same line. -/
theorem eq_of_chars_eq {l m : TextLine} (hl : l.Proper) (hm : m.Proper) (h : l.chars = m.chars) :
    l = m := by
  have body : ∀ k : TextLine, k.Proper → k.chars.takeWhile (fun c => !endsLine c) = k.body := by
    intro k hk
    have hp : ∀ c ∈ k.body, (!endsLine c) = true := by
      intro c hc
      simp [endsLine_of_unbroken hk.1 c hc]
    rw [TextLine.chars, List.takeWhile_append_of_pos hp]
    cases hs : k.stop with
    | nil => simp
    | cons c rest =>
      have hc := endsLine_of_mem_stop hk c (hs ▸ List.mem_cons_self)
      rw [List.takeWhile_cons_of_neg (by simp [hc]), List.append_nil]
  have hb : l.body = m.body := by rw [← body l hl, ← body m hm, h]
  have hs : l.stop = m.stop := by
    rw [TextLine.chars, TextLine.chars, hb] at h
    exact List.append_cancel_left h
  cases l
  cases m
  simp_all

/-- Cutting finds the lines of a text whose first line has begun with `acc`. -/
theorem hasLines_splitLinesAux (acc cs : List Char) (hacc : Unbroken acc) :
    ∃ ls, HasLines (acc.reverse ++ cs) ls ∧ splitLinesAux acc cs = ls.map TextLine.chars := by
  have hrev : Unbroken acc.reverse := fun c hc => hacc c (List.mem_reverse.mp hc)
  fun_induction splitLinesAux acc cs with
  | case1 acc h =>
    have he : acc = [] := List.isEmpty_iff.mp h
    subst he
    exact ⟨[], .nil, rfl⟩
  | case2 acc h =>
    have hne : acc.reverse ≠ [] := by simpa using h
    exact ⟨[⟨acc.reverse, []⟩], by simpa using HasLines.unended _ hne hrev, by simp [TextLine.chars]⟩
  | case3 acc rest ih =>
    obtain ⟨ls, hls, he⟩ := ih (by simp [Unbroken]) (by simp [Unbroken])
    exact ⟨⟨acc.reverse, ['\r', '\n']⟩ :: ls, .ended hrev (.crlf rest) (by simpa using hls),
      by simp [TextLine.chars, he]⟩
  | case4 acc c rest hcr hc ih =>
    obtain ⟨ls, hls, he⟩ := ih (by simp [Unbroken]) (by simp [Unbroken])
    have ht : Terminator [c] rest := by
      rcases hc with rfl | rfl
      · exact .lf rest
      · refine .cr rest ?_
        intro hh
        cases rest with
        | nil => simp at hh
        | cons d rest => exact hcr rest rfl (by simpa using hh)
    exact ⟨⟨acc.reverse, [c]⟩ :: ls, .ended hrev ht (by simpa using hls),
      by simp [TextLine.chars, he]⟩
  | case5 acc c rest hcr hc ih =>
    have hcons : Unbroken (c :: acc) := by
      intro d hd
      rcases List.mem_cons.mp hd with rfl | hd
      · exact not_or.mp hc
      · exact hacc d hd
    obtain ⟨ls, hls, he⟩ := ih hcons (fun d hd => hcons d (List.mem_reverse.mp hd))
    exact ⟨ls, by simpa using hls, he⟩

/-- Cutting a text finds its lines. -/
theorem hasLines_splitLines (s : String) :
    ∃ ls, HasLines s.toList ls ∧ splitLines s = ls.map (fun l => String.ofList l.chars) := by
  obtain ⟨ls, hls, he⟩ := hasLines_splitLinesAux [] s.toList (by simp [Unbroken])
  exact ⟨ls, by simpa using hls, by simp [splitLines, he]⟩

end ChangeDesk.Diff
