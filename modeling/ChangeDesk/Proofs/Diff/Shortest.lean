import ChangeDesk.Proofs.Diff.Middle
import ChangeDesk.Proofs.Diff.Unified

/-!
The script that is found is a shortest one. Halves of a shortest way are searched for again, and the sides of
the middle are smaller than the whole, so the tables left behind by one half are large enough for the other.
What such a script keeps is a longest common subsequence, and the line diff counts what it removes and adds.
-/
namespace ChangeDesk.Diff

open Script

variable {α : Type} {as bs s : List α} {d e x y bound : Nat}

/-- A sequence inside of another that has at most one item more begins or ends with the same item. -/
theorem head?_or_getLast?_of_sublist (h : as.Sublist bs) (hlength : bs.length ≤ as.length + 1) (hne : as ≠ []) :
    as.head? = bs.head? ∨ as.getLast? = bs.getLast? := by
  cases h with
  | slnil => exact absurd rfl hne
  | cons b h =>
    obtain rfl := h.eq_of_length_le (by simpa using hlength)
    exact .inr (by rw [List.getLast?_cons_of_ne_nil hne])
  | cons_cons => exact .inl rfl

/-- Between sequences that neither begin nor end with the same item there are two differences at least. -/
theorem atLeast_two (has : as ≠ []) (hbs : bs ≠ []) (hhead : as.head? ≠ bs.head?)
    (hlast : as.getLast? ≠ bs.getLast?) : AtLeast 2 as bs := by
  rintro n ⟨s, hs, hs', hlength⟩
  by_contra hfew
  have hshort := hs.length_le
  have hshort' := hs'.length_le
  rcases Nat.lt_or_ge s.length as.length with hlt | hle
  · obtain rfl := hs'.eq_of_length_le (by omega)
    rcases head?_or_getLast?_of_sublist hs (by omega) hbs with h | h
    · exact hhead h.symm
    · exact hlast h.symm
  · obtain rfl := hs.eq_of_length_le hle
    rcases head?_or_getLast?_of_sublist hs' (by omega) has with h | h
    · exact hhead h
    · exact hlast h

/-- The middle of sequences that neither begin nor end with the same item is at neither end of them. -/
theorem Cuts.inner (h : Cuts as bs d e x y) (hde : d = e ∨ d = e + 1) (hfewest : AtLeast (d + e) as bs)
    (htwo : AtLeast 2 as bs) : 0 < x + y ∧ x + y < as.length + bs.length := by
  have hx := h.old
  have hy := h.new
  constructor
  · by_contra hstart
    obtain rfl : x = 0 := by omega
    obtain rfl : y = 0 := by omega
    have hrest := h.rest
    have := hfewest e hrest
    have := htwo e hrest
    omega
  · by_contra hend
    obtain rfl : x = as.length := by omega
    obtain rfl : y = bs.length := by omega
    have hfront := h.front
    rw [List.take_length, List.take_length] at hfront
    have := hfewest d hfront
    have := htwo d hfront
    omega

/-- What a search leaves behind: tables of the same size and a script that no other one is shorter than. -/
structure Shortest (r : Script α × Frontiers) (as bs : List α) (bound : Nat) : Prop where
  fits : r.2.Fits bound
  cost_le : ∀ n, Apart n as bs → r.1.cost ≤ n

/-- Shortest scripts of the two sides of a middle make one of the whole. -/
theorem Shortest.append {l r : Script α × Frontiers} (hcut : Cuts as bs d e x y)
    (hfewest : AtLeast (d + e) as bs) (hl : Shortest l (as.take x) (bs.take y) bound)
    (hr : Shortest r (as.drop x) (bs.drop y) bound) : Shortest (l.1 ++ r.1, r.2) as bs bound := by
  refine ⟨hr.fits, fun n hn => ?_⟩
  have hleft := hl.cost_le d hcut.front
  have hright := hr.cost_le e hcut.rest
  have hwhole := hfewest n hn
  rw [cost_append]
  omega

variable [DecidableEq α]

theorem head?_splitStart (as bs : List α) (ha : (splitStart as bs).2.1 ≠ []) :
    (splitStart as bs).2.1.head? ≠ (splitStart as bs).2.2.head? := by
  fun_induction splitStart as bs with
  | case1 as b bs r ih => exact ih ha
  | case2 a as b bs hab => simpa using hab
  | case3 as bs hcons =>
    cases as with
    | nil => exact absurd rfl ha
    | cons a as =>
      cases bs with
      | nil => simp
      | cons b bs => exact absurd rfl (hcons a as b bs rfl)

theorem getLast?_splitEnd (as bs : List α) (ha : (splitEnd as bs).1 ≠ []) :
    (splitEnd as bs).1.getLast? ≠ (splitEnd as bs).2.1.getLast? := by
  simp only [splitEnd, List.getLast?_reverse]
  refine head?_splitStart _ _ fun hnil => ha ?_
  rw [splitEnd, hnil, List.reverse_nil]

/-- The search finds a shortest script, whatever earlier searches have left in the tables. -/
theorem shortest_scriptAux (fuel : Nat) (as bs : List α) (f : Frontiers)
    (hfuel : as.length + bs.length < fuel) (hf : f.Fits bound)
    (hbound : searchBound as.length bs.length ≤ bound) : Shortest (scriptAux fuel as bs f) as bs bound := by
  induction fuel generalizing as bs f with
  | zero => omega
  | succ fuel ih =>
    obtain ⟨hold, hnew⟩ := splitStart_eq as bs
    obtain ⟨hold', hnew'⟩ := splitEnd_eq (splitStart as bs).2.1 (splitStart as bs).2.2
    have hhead := head?_splitStart as bs
    have hlast := getLast?_splitEnd (splitStart as bs).2.1 (splitStart as bs).2.2
    rcases hs : splitStart as bs with ⟨start, a, b⟩
    simp only [hs] at hold hnew hold' hnew' hhead hlast
    rcases he : splitEnd a b with ⟨a', b', stop⟩
    simp only [he] at hold' hnew' hlast
    subst hold' hnew'
    subst hold hnew
    -- What both begin and end with is kept by every shortest script, so only the middle parts count.
    have outer : ∀ r : Script α × Frontiers, Shortest r a' b' bound →
        Shortest (keepRun start ++ r.1 ++ keepRun stop, r.2) (start ++ (a' ++ stop)) (start ++ (b' ++ stop))
          bound := by
      intro r hr
      refine ⟨hr.fits, fun n hn => ?_⟩
      simpa using hr.cost_le n hn.of_append_left.of_append_right
    rw [scriptAux]
    simp only [hs, he]
    apply outer
    split
    · exact ⟨hf, fun n _ => by simp⟩
    · refine ⟨hf, fun n hn => ?_⟩
      simpa using hn.bounds.1
    · refine ⟨hf, fun n hn => ?_⟩
      simpa using hn.bounds.2
    · rename_i ha hb _
      simp only [List.length_append] at hfuel
      have hbound' : searchBound a'.length b'.length ≤ bound := by
        simp only [searchBound, List.length_append] at hbound ⊢
        omega
      obtain ⟨⟨x, y⟩, g, hmiddle, hg, d, e, hde, hfewest, hcut⟩ := exists_middle hf ha hbound'
      have hhead' := hhead (List.append_ne_nil_of_left_ne_nil ha stop)
      rw [List.head?_append_of_ne_nil _ ha, List.head?_append_of_ne_nil _ hb] at hhead'
      -- The cut is inside, so both sides need less fuel than the whole.
      obtain ⟨hstart, hend⟩ := hcut.inner hde hfewest (atLeast_two ha hb hhead' (hlast ha))
      have hx := hcut.old
      have hy := hcut.new
      simp only at hstart hend hx hy
      rw [hmiddle]
      have hleft := ih (a'.take x) (b'.take y) g (by simp only [List.length_take]; omega) hg (by
        simp only [searchBound, List.length_take] at hbound' ⊢
        omega)
      refine hleft.append hcut hfewest (ih _ _ _ (by simp only [List.length_drop]; omega) hleft.fits ?_)
      simp only [searchBound, List.length_drop] at hbound' ⊢
      omega

/-- The script that is found is a shortest one. -/
theorem cost_script_le {n : Nat} (h : Apart n as bs) : (script as bs).cost ≤ n := by
  have hfit : (Frontiers.start as.length bs.length).Fits (searchBound as.length bs.length) :=
    ⟨Frontier.fits_start _, Frontier.fits_start _⟩
  exact (shortest_scriptAux _ as bs _ (Nat.lt_succ_self _) hfit (Nat.le_refl _)).cost_le n h

/-! ## What is kept -/

/-- The length of a longest common subsequence. -/
def LongestCommon (as bs : List α) (l : Nat) : Prop :=
  IsGreatest {n | ∃ s : List α, s.Sublist as ∧ s.Sublist bs ∧ s.length = n} l

def Run.kept : Run α → List α
  | .keep l => l
  | .remove _ => []
  | .add _ => []

def Script.kept (s : Script α) : List α := s.flatMap Run.kept

omit [DecidableEq α]

/-- What a script keeps is a common subsequence, and all else is removed or added. -/
theorem Script.kept_spec (s : Script α) :
    s.kept.Sublist s.old ∧ s.kept.Sublist s.new ∧ s.cost + 2 * s.kept.length = s.old.length + s.new.length := by
  induction s with
  | nil => simp [kept]
  | cons r s ih =>
    obtain ⟨hold, hnew, hlength⟩ := ih
    have hkept : kept (r :: s) = r.kept ++ kept s := List.flatMap_cons
    rw [hkept, old_cons, new_cons]
    cases r with
    | keep l =>
      refine ⟨(List.Sublist.refl l).append hold, (List.Sublist.refl l).append hnew, ?_⟩
      simp only [cost_keep, List.length_append, Run.kept, Run.old, Run.new]
      omega
    | remove l =>
      refine ⟨(List.nil_sublist l).append hold, hnew, ?_⟩
      simp only [cost_remove, List.length_append, Run.kept, Run.old, Run.new, List.length_nil]
      omega
    | add l =>
      refine ⟨hold, (List.nil_sublist l).append hnew, ?_⟩
      simp only [cost_add, List.length_append, Run.kept, Run.old, Run.new, List.length_nil]
      omega

/-- A shortest script keeps a longest common subsequence. -/
theorem exists_longestCommon {s : Script α} (hs : Leads s as bs) (hcost : ∀ n, Apart n as bs → s.cost ≤ n) :
    ∃ l, LongestCommon as bs l ∧ s.cost + 2 * l = as.length + bs.length := by
  obtain ⟨hold, hnew, hlength⟩ := s.kept_spec
  rw [hs.old_eq] at hold hlength
  rw [hs.new_eq] at hnew hlength
  refine ⟨s.kept.length, ⟨⟨s.kept, hold, hnew, rfl⟩, ?_⟩, hlength⟩
  rintro n ⟨t, ht, ht', rfl⟩
  have hshort := ht.length_le
  have hshort' := ht'.length_le
  have := hcost (as.length + bs.length - 2 * t.length) ⟨t, ht, ht', by omega⟩
  omega

theorem LongestCommon.of_map {β : Type} {f : α → β} (hf : Function.Injective f) {l : Nat}
    (h : LongestCommon (as.map f) (bs.map f) l) : LongestCommon as bs l := by
  obtain ⟨⟨s, hs, hs', hl⟩, hgreatest⟩ := h
  constructor
  · obtain ⟨t, ht, rfl⟩ := List.sublist_map_iff.1 hs
    obtain ⟨t', ht', he⟩ := List.sublist_map_iff.1 hs'
    obtain rfl := List.map_injective_iff.2 hf he
    exact ⟨t, ht, ht', by simpa using hl⟩
  · rintro n ⟨t, ht, ht', rfl⟩
    exact hgreatest ⟨t.map f, ht.map f, ht'.map f, by simp⟩

/-- Sequences with nothing outside a longest common subsequence are the same. -/
theorem LongestCommon.eq_iff {l : Nat} (h : LongestCommon as bs l) :
    2 * l = as.length + bs.length ↔ as = bs := by
  obtain ⟨⟨s, hs, hs', rfl⟩, hgreatest⟩ := h
  have hshort := hs.length_le
  have hshort' := hs'.length_le
  constructor
  · intro hl
    exact (hs.eq_of_length (by omega)).symm.trans (hs'.eq_of_length (by omega))
  · rintro rfl
    have := hgreatest ⟨as, List.Sublist.refl as, List.Sublist.refl as, rfl⟩
    omega

/-! ## The lines of the diff -/

def changedCount (ls : List DiffLine) : Nat := removedCount ls + addedCount ls

theorem changedCount_append (ls ms : List DiffLine) :
    changedCount (ls ++ ms) = changedCount ls + changedCount ms := by
  simp only [changedCount, removedCount, addedCount, List.countP_append]
  omega

theorem changedCount_changedLines (i j : Nat) (removed added : List String) :
    changedCount (changedLines i j removed added) = removed.length + added.length := by
  simp [changedCount, changedLines, removedCount, addedCount, List.countP_append, List.countP_map,
    Function.comp_def, DiffLine.isRemoved, DiffLine.isAdded]

theorem changedCount_keptLines (i j : Nat) (kept : List String) : changedCount (keptLines i j kept) = 0 := by
  simp [changedCount, keptLines, removedCount, addedCount, List.countP_map, Function.comp_def,
    DiffLine.isRemoved, DiffLine.isAdded]

theorem changedCount_listLines (i j : Nat) (removed added : List String) (s : Script String) :
    changedCount (listLines i j removed added s) = removed.length + added.length + s.cost := by
  fun_induction listLines i j removed added s with
  | case1 i j removed added => rw [changedCount_changedLines, cost_nil, Nat.add_zero]
  | case2 i j removed added l rest i' j' ih =>
    rw [changedCount_append, changedCount_append, changedCount_changedLines, changedCount_keptLines, ih, cost_keep]
    simp only [List.length_nil, Nat.zero_add, Nat.add_zero]
  | case3 i j removed added l rest ih =>
    rw [ih, List.length_append, cost_remove]
    omega
  | case4 i j removed added l rest ih =>
    rw [ih, List.length_append, cost_add]
    omega

theorem changedCount_eq_zero_iff {ls : List DiffLine} :
    changedCount ls = 0 ↔ ∀ e ∈ ls, e.isRemoved = false ∧ e.isAdded = false := by
  simp [changedCount, removedCount, addedCount, List.countP_eq_zero, forall_and]

theorem flatMap_splitLines (s : String) : (splitLines s).flatMap String.toList = s.toList := by
  have hflat := flatten_splitLinesAux [] s.toList
  rw [splitLines, List.flatMap_map]
  simpa [List.flatMap_def] using hflat

/-- The line diff of two texts removes and adds as few lines as a longest common subsequence of their lines allows,
and none only if the texts are the same. -/
theorem lines_shortest (previous current : String) :
    ∃ old new : List TextLine, HasLines previous.toList old ∧ HasLines current.toList new ∧
      (∃ l, LongestCommon (old.map TextLine.chars) (new.map TextLine.chars) l ∧
        removedCount (lines previous current) + addedCount (lines previous current) + 2 * l =
          old.length + new.length) ∧
      ((∀ e ∈ lines previous current, e.isRemoved = false ∧ e.isAdded = false) ↔ previous = current) := by
  obtain ⟨old, hold, hsplit⟩ := hasLines_splitLines previous
  obtain ⟨new, hnew, hsplit'⟩ := hasLines_splitLines current
  have hleads := leads_compact_script (splitLines previous) (splitLines current)
  have hcost (n : Nat) (hn : Apart n (splitLines previous) (splitLines current)) :
      (compact (script (splitLines previous) (splitLines current))).cost ≤ n :=
    (agrees_compact _).cost.trans_le (cost_script_le hn)
  obtain ⟨l, hl, hlength⟩ := exists_longestCommon hleads hcost
  have hcount : changedCount (lines previous current) + 2 * l =
      (splitLines previous).length + (splitLines current).length := by
    rw [lines, changedCount_listLines, ← hlength]
    simp
  have htexts : splitLines previous = splitLines current ↔ previous = current := by
    refine ⟨fun h => String.toList_inj.1 ?_, congrArg splitLines⟩
    rw [← flatMap_splitLines previous, h, flatMap_splitLines]
  refine ⟨old, new, hold, hnew, ⟨l, ?_, ?_⟩, ?_⟩
  · refine LongestCommon.of_map (fun _ _ h => String.ofList_injective h) ?_
    simpa [hsplit, hsplit', Function.comp_def] using hl
  · simpa [changedCount, hsplit, hsplit'] using hcount
  · rw [← changedCount_eq_zero_iff, ← htexts, ← hl.eq_iff]
    omega

end ChangeDesk.Diff
