import ChangeDesk.Text.Basic
import Mathlib.Data.List.DropRight
import Mathlib.Data.List.TakeDrop
import Mathlib.Data.List.TakeWhile

/-!
Cutting what was joined, and taking off what stands at an end. Pieces in which the separator does not occur
are what cutting their join gives, and a list is cut at its first separator.
-/
namespace ChangeDesk.Text

variable {α : Type} [DecidableEq α] {sep : α} {l before behind : List α}

theorem splitAll_of_not_mem (h : sep ∉ l) : splitAll sep l = [l] := by
  induction l with
  | nil => rfl
  | cons c rest ih =>
    have hc : c ≠ sep := Ne.symm (List.ne_of_not_mem_cons h)
    rw [splitAll, if_neg hc, ih (List.not_mem_of_not_mem_cons h)]

theorem splitAll_append (sep : α) (l m : List α) :
    splitAll sep (l ++ sep :: m) = splitAll sep l ++ splitAll sep m := by
  induction l with
  | nil => simp [splitAll]
  | cons c rest ih =>
    obtain ⟨p, ps, hsplit⟩ := List.exists_cons_of_ne_nil (splitAll_ne_nil sep rest)
    rw [List.cons_append, splitAll, splitAll, ih, hsplit]
    split <;> rfl

/-- Pieces without the separator are what cutting their join gives. -/
theorem splitAll_joinAll {p : List α} {ps : List (List α)} (h : ∀ q ∈ p :: ps, sep ∉ q) :
    splitAll sep (joinAll sep (p :: ps)) = p :: ps := by
  induction ps generalizing p with
  | nil => exact splitAll_of_not_mem (h p List.mem_cons_self)
  | cons q ps ih =>
    rw [joinAll, splitAll_append, splitAll_of_not_mem (h p List.mem_cons_self),
      ih fun r hr => h r (List.mem_cons_of_mem p hr)]
    rfl

theorem forall_ne_of_not_mem (h : sep ∉ l) : ∀ c ∈ l, decide (c ≠ sep) = true :=
  fun _ hc => decide_eq_true (ne_of_mem_of_not_mem hc h)

theorem splitFirst?_append (h : sep ∉ before) (behind : List α) :
    splitFirst? sep (before ++ sep :: behind) = some (before, behind) := by
  rw [splitFirst?, List.span_eq_takeWhile_dropWhile,
    List.takeWhile_append_of_pos (forall_ne_of_not_mem h),
    List.dropWhile_append_of_pos (forall_ne_of_not_mem h)]
  simp

theorem splitFirst?_of_not_mem (h : sep ∉ l) : splitFirst? sep l = none := by
  rw [splitFirst?, List.span_eq_takeWhile_dropWhile,
    List.dropWhile_eq_nil_iff.2 (forall_ne_of_not_mem h)]

theorem splitFirst?_subset (h : splitFirst? sep l = some (before, behind)) :
    before ⊆ l ∧ behind ⊆ l := by
  rw [splitFirst?, List.span_eq_takeWhile_dropWhile] at h
  have hbefore : l.takeWhile (fun c => decide (c ≠ sep)) ⊆ l := List.takeWhile_subset _
  have hbehind : l.dropWhile (fun c => decide (c ≠ sep)) ⊆ l := List.dropWhile_subset _
  split at h
  · cases h
  · rename_i hspan
    obtain ⟨rfl, hrest⟩ := Prod.mk.inj hspan
    obtain ⟨rfl, rfl⟩ := Prod.mk.inj (Option.some.inj h)
    rw [hrest] at hbehind
    exact ⟨hbefore, List.subset_of_cons_subset hbehind⟩

end ChangeDesk.Text

/-!
## White space

Texts without white space at their ends, and what becomes of them when slashes are taken off the end: they
stay so unless nothing, or white space, stands before the slashes.
-/

namespace ChangeDesk.Text

variable {s front : String} {cs cs' : List Char} {drop : Char → Bool} {c : Char}

theorem dropEndWhile_subset (drop : Char → Bool) (cs : List Char) : dropEndWhile drop cs ⊆ cs :=
  (List.rdropWhile_prefix drop cs).subset

theorem not_of_head?_dropWhile (h : (cs.dropWhile drop).head? = some c) : drop c = false := by
  have hnot := List.head?_dropWhile_not drop cs
  rw [h] at hnot
  exact hnot

theorem not_of_getLast?_dropEndWhile (h : (dropEndWhile drop cs).getLast? = some c) : drop c = false := by
  rw [dropEndWhile, List.getLast?_reverse] at h
  exact not_of_head?_dropWhile h

theorem dropWhile_eq_self (h : ∀ c, cs.head? = some c → drop c = false) : cs.dropWhile drop = cs := by
  cases cs with
  | nil => rfl
  | cons c rest => simp [h c rfl]

theorem dropEndWhile_eq_self (h : ∀ c, cs.getLast? = some c → drop c = false) : dropEndWhile drop cs = cs := by
  rw [dropEndWhile, dropWhile_eq_self fun c hc => h c (by rwa [List.head?_reverse] at hc), List.reverse_reverse]

theorem toList_trim (s : String) :
    (trim s).toList = dropEndWhile isSpace (s.toList.dropWhile isSpace) := String.toList_ofList

theorem toList_trimEnd (drop : Char → Bool) (s : String) :
    (trimEnd drop s).toList = dropEndWhile drop s.toList := String.toList_ofList

theorem trimEnd_isPrefix (drop : Char → Bool) (s : String) : (trimEnd drop s).toList <+: s.toList := by
  rw [toList_trimEnd]
  exact List.rdropWhile_prefix drop s.toList

theorem trimEnd_eq_self (h : ∀ c, s.toList.getLast? = some c → drop c = false) : trimEnd drop s = s := by
  rw [trimEnd, dropEndWhile_eq_self h, String.ofList_toList]

/-- Trimming takes characters away, and no others take their place. -/
theorem length_trim_le (s : String) : (trim s).toList.length ≤ s.toList.length := by
  rw [toList_trim]
  exact (List.rdropWhile_prefix _ _).length_le.trans (List.dropWhile_sublist _).length_le

theorem trim_of_isBlank (h : isBlank s = true) : trim s = "" := by
  have hnone : s.toList.dropWhile isSpace = [] := List.dropWhile_eq_nil_iff.2 (List.all_eq_true.1 h)
  rw [trim, hnone]
  rfl

/-- Something, without white space at its two ends. -/
structure Neat (s : String) : Prop where
  filled : s ≠ ""
  first : ∀ c, s.toList.head? = some c → isSpace c = false
  last : ∀ c, s.toList.getLast? = some c → isSpace c = false

theorem Neat.trim_eq (h : Neat s) : trim s = s := by
  rw [trim, dropWhile_eq_self h.first, dropEndWhile_eq_self h.last, String.ofList_toList]

theorem Neat.isBlank (h : Neat s) : isBlank s = false := by
  cases hs : s.toList with
  | nil => exact absurd (String.toList_eq_nil_iff.1 hs) h.filled
  | cons c rest => simp [Text.isBlank, hs, h.first c (by rw [hs]; rfl)]

theorem head?_of_isPrefix (h : cs <+: cs') (hc : cs.head? = some c) : cs'.head? = some c := by
  obtain ⟨rest, rfl⟩ := h
  rw [List.head?_append, hc, Option.some_or]

/-- Something is left of a text that is not blank. -/
theorem neat_trim (h : Text.isBlank s = false) : Neat (trim s) := by
  have hleft : s.toList.dropWhile isSpace ≠ [] := by
    rw [Ne, List.dropWhile_eq_nil_iff, ← List.all_eq_true]
    simpa [Text.isBlank] using h
  obtain ⟨c, hc⟩ := Option.ne_none_iff_exists'.1 (mt List.head?_eq_none_iff.1 hleft)
  refine ⟨fun he => ?_, fun d hd => ?_, fun d hd => ?_⟩
  · have hnil : dropEndWhile isSpace (s.toList.dropWhile isSpace) = [] := by rw [← toList_trim, he]; rfl
    have hspace := List.rdropWhile_eq_nil_iff.1 hnil c (List.mem_of_mem_head? hc)
    simp [not_of_head?_dropWhile hc] at hspace
  · rw [toList_trim] at hd
    exact not_of_head?_dropWhile (head?_of_isPrefix (List.rdropWhile_prefix _ _) hd)
  · rw [toList_trim] at hd
    exact not_of_getLast?_dropEndWhile hd

/-- Before the slashes at the end stands nothing, or white space. -/
def Hollow (s : String) : Prop :=
  ∃ front n, s.toList = front ++ List.replicate n '/' ∧ ∀ c, front.getLast? = some c → isSpace c = true

theorem getLast?_trimEnd_slash (s : String) : (trimEnd (· = '/') s).toList.getLast? ≠ some '/' := by
  intro h
  rw [toList_trimEnd] at h
  simpa using not_of_getLast?_dropEndWhile h

/-- What is taken off the end are slashes. -/
theorem exists_slashes (s : String) : ∃ n, s.toList = (trimEnd (· = '/') s).toList ++ List.replicate n '/' := by
  refine ⟨(s.toList.rtakeWhile (· = '/')).length, ?_⟩
  rw [← List.eq_replicate_of_mem (l := s.toList.rtakeWhile (· = '/')) fun c hc => ?_, toList_trimEnd]
  · exact List.rdropWhile_append_rtakeWhile.symm
  · have hslash := List.mem_rtakeWhile_imp hc
    exact of_decide_eq_true hslash

theorem dropEndWhile_append_slashes (front : List Char) (n : Nat) :
    dropEndWhile (· = '/') (front ++ List.replicate n '/') = dropEndWhile (· = '/') front := by
  rw [dropEndWhile, List.reverse_append, List.reverse_replicate, List.dropWhile_append_of_pos]
  · rfl
  · intro c hc
    simp [List.eq_of_mem_replicate hc]

/-- A text is hollow if what is left without its slashes is empty or ends with white space. -/
theorem hollow_iff : Hollow s ↔ ∀ c, (trimEnd (· = '/') s).toList.getLast? = some c → isSpace c = true := by
  constructor
  · rintro ⟨front, n, hs, hfront⟩ c hc
    have hself : dropEndWhile (· = '/') front = front := by
      refine dropEndWhile_eq_self fun d hd => ?_
      rw [decide_eq_false_iff_not]
      rintro rfl
      exact absurd (hfront _ hd) (by decide)
    rw [toList_trimEnd, hs, dropEndWhile_append_slashes, hself] at hc
    exact hfront c hc
  · intro h
    obtain ⟨n, hn⟩ := exists_slashes s
    exact ⟨_, n, hn, h⟩

instance (s : String) : Decidable (Hollow s) :=
  decidable_of_iff ((trimEnd (· = '/') s).toList.getLast?.all isSpace = true) (by
    rw [hollow_iff]
    cases (trimEnd (· = '/') s).toList.getLast? <;> simp)

/-- A text is neat without its slashes exactly if it is not hollow. -/
theorem neat_trimEnd_iff (h : Neat s) : Neat (trimEnd (· = '/') s) ↔ ¬ Hollow s := by
  rw [hollow_iff]
  constructor
  · intro hneat hhollow
    cases hlast : (trimEnd (· = '/') s).toList.getLast? with
    | none =>
      rw [List.getLast?_eq_none_iff, String.toList_eq_nil_iff] at hlast
      exact hneat.filled hlast
    | some c =>
      have hspace := hneat.last c hlast
      simp [hhollow c hlast] at hspace
  · intro hhollow
    obtain ⟨c, hlast⟩ := Classical.not_forall.1 hhollow
    obtain ⟨hc, hspace⟩ := Classical.not_imp.1 hlast
    refine ⟨fun he => ?_, fun d hd => h.first d (head?_of_isPrefix (trimEnd_isPrefix _ _) hd), fun d hd => ?_⟩
    · rw [he] at hc
      cases hc
    · obtain rfl : c = d := Option.some.inj (hc.symm.trans hd)
      exact Bool.eq_false_iff.2 hspace

/-! ## Texts behind other ones -/

theorem dropEndWhile_append (h : dropEndWhile drop cs' ≠ []) :
    dropEndWhile drop (cs ++ cs') = cs ++ dropEndWhile drop cs' := by
  rw [dropEndWhile, Ne, List.reverse_eq_nil_iff] at h
  rw [dropEndWhile, List.reverse_append, List.dropWhile_append, if_neg (by simpa using h), List.reverse_append,
    List.reverse_reverse]
  rfl

/-- What is cut off the end of two texts is cut off the second one, as long as something is left of it. -/
theorem trimEnd_append (h : trimEnd drop s ≠ "") : trimEnd drop (front ++ s) = front ++ trimEnd drop s := by
  have hleft : dropEndWhile drop s.toList ≠ [] := by
    rwa [← toList_trimEnd, Ne, String.toList_eq_nil_iff]
  refine String.toList_injective ?_
  rw [toList_trimEnd, String.toList_append, String.toList_append, toList_trimEnd, dropEndWhile_append hleft]

/-- Texts of slashes alone are cut off as a whole. -/
theorem trimEnd_append_slashes (h : trimEnd (· = '/') s = "") :
    trimEnd (· = '/') (front ++ s) = trimEnd (· = '/') front := by
  obtain ⟨n, hn⟩ := exists_slashes s
  rw [h] at hn
  refine String.toList_injective ?_
  rw [toList_trimEnd, String.toList_append, hn, toList_trimEnd]
  exact dropEndWhile_append_slashes _ n

/-- Whether a text of which something is left is hollow does not depend on what stands in front of it. -/
theorem hollow_append_iff (h : trimEnd (· = '/') s ≠ "") : Hollow (front ++ s) ↔ Hollow s := by
  rw [hollow_iff, hollow_iff, trimEnd_append h, String.toList_append,
    List.getLast?_append_of_ne_nil _ (by rwa [Ne, String.toList_eq_nil_iff])]

theorem hollow_of_trimEnd (h : trimEnd (· = '/') s = "") : Hollow s := by
  rw [hollow_iff, h]
  intro c hc
  cases hc

end ChangeDesk.Text
