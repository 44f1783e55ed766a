import ChangeDesk.Disk
import Mathlib.Tactic.Common

/-!
What changes of a disk leave as it is. Making directories only adds to a disk, so that whatever a path named it
names still, and writing a file changes no directory, so that all paths lead where they led before.
-/
namespace ChangeDesk.Disk

variable {d d' d'' : Disk} {p q : Place} {directory : Place} {path content : String} {n : Node}

theorem content?_eq_some_iff : d.content? directory path = some content ↔
    ∃ p, d.find? directory path = some p ∧ d.node? p = some (.file content) := by
  rw [content?]
  cases d.find? directory path with
  | none => simp
  | some p =>
    rw [Option.bind_some]
    constructor
    · intro h
      split at h
      · rename_i hfile
        exact ⟨p, rfl, hfile.trans (congrArg _ (congrArg _ (Option.some.inj h)))⟩
      · cases h
    · rintro ⟨q, hq, hfile⟩
      rw [Option.some.inj hq, hfile]

theorem holds_of_content? (h : d.content? directory path = some content) :
    d.holds directory path = true := by
  obtain ⟨p, hfind, hfile⟩ := content?_eq_some_iff.1 h
  rw [holds, hfind, Option.bind_some, hfile]
  rfl

theorem ne_root_of_isDirectory (h : d.isDirectory p = false) : p ≠ [] := by
  rintro rfl
  simp [isDirectory, node?] at h

theorem isDirectory_put_file (h : d.isDirectory p = false) :
    (d.put p (.file content)).isDirectory = d.isDirectory := by
  have hp := ne_root_of_isDirectory h
  funext q
  by_cases hq : q = []
  · subst hq
    rfl
  · simp only [isDirectory, node?, put, if_neg hp, if_neg hq, SortedMap.get?_insert] at h ⊢
    split
    · rename_i hpath
      rw [hpath, h]
      rfl
    · rfl

/-- Where paths lead depends on the directories alone. -/
theorem find?_congr (h : d'.isDirectory = d.isDirectory) : d'.find? = d.find? := by
  have hstep : d'.step? = d.step? := by
    funext p component
    rw [step?, step?, h]
  funext directory path
  rw [find?, find?, hstep]

/-- What is written to a file can be read from it. -/
theorem content?_write? (h : d.write? directory path content = some d') :
    d'.content? directory path = some content := by
  rw [write?, Option.bind_eq_bind, Option.bind_eq_some_iff] at h
  obtain ⟨p, hfind, hput⟩ := h
  split_ifs at hput with hdirectory
  rw [Bool.not_eq_true] at hdirectory
  obtain rfl := Option.some.inj hput
  rw [content?_eq_some_iff, find?_congr (isDirectory_put_file hdirectory)]
  exact ⟨p, hfind, node?_put_self (ne_root_of_isDirectory hdirectory) _⟩

/-- What stands on one disk stands on the other one, too. -/
def Within (d d' : Disk) : Prop := ∀ p n, d.node? p = some n → d'.node? p = some n

theorem Within.refl (d : Disk) : d.Within d := fun _ _ h => h

theorem Within.trans (h : d.Within d') (h' : d'.Within d'') : d.Within d'' := fun p n hp => h' p n (h p n hp)

theorem within_put (h : d.node? p = none) (n : Node) : d.Within (d.put p n) := by
  intro q m hq
  have hp : p ≠ [] := by
    rintro rfl
    simp [node?] at h
  by_cases hroot : q = []
  · subst hroot
    exact hq
  · simp only [node?, put, if_neg hp, if_neg hroot, SortedMap.get?_insert] at h hq ⊢
    split
    · rename_i hpath
      rw [hpath, h] at hq
      cases hq
    · exact hq

theorem within_makeStep? {here here' : Disk × Place} {component : List Char}
    (h : makeStep? here component = some here') : here.1.Within here'.1 := by
  simp only [makeStep?] at h
  split at h
  · cases h
    exact Within.refl _
  · cases h
  · rename_i hnone
    cases h
    exact within_put hnone _

theorem within_foldlM_makeStep? {components : List (List Char)} {here here' : Disk × Place}
    (h : components.foldlM makeStep? here = some here') : here.1.Within here'.1 := by
  induction components generalizing here with
  | nil =>
    cases h
    exact Within.refl _
  | cons component rest ih =>
    rw [List.foldlM_cons, Option.bind_eq_bind, Option.bind_eq_some_iff] at h
    obtain ⟨next, hstep, hrest⟩ := h
    exact (within_makeStep? hstep).trans (ih hrest)

/-- Making directories only adds to a disk. -/
theorem within_withDirectories? (h : d.withDirectories? directory path = some d') : d.Within d' := by
  rw [withDirectories?, Option.map_eq_some_iff] at h
  obtain ⟨here, hfold, rfl⟩ := h
  exact within_foldlM_makeStep? hfold

theorem Within.step? (h : d.Within d') {component : List Char} (hq : d.step? p component = some q) :
    d'.step? p component = some q := by
  simp only [Disk.step?, isDirectory, beq_iff_eq] at hq ⊢
  split_ifs at hq with hp
  rw [if_pos (h p _ hp), hq]

theorem Within.foldlM_step? (h : d.Within d') {components : List (List Char)}
    (hq : components.foldlM d.step? p = some q) : components.foldlM d'.step? p = some q := by
  induction components generalizing p with
  | nil => exact hq
  | cons component rest ih =>
    rw [List.foldlM_cons, Option.bind_eq_bind, Option.bind_eq_some_iff] at hq ⊢
    obtain ⟨next, hstep, hrest⟩ := hq
    exact ⟨next, h.step? hstep, ih hrest⟩

theorem Within.find? (h : d.Within d') (hp : d.find? directory path = some p) :
    d'.find? directory path = some p := by
  rw [Disk.find?] at hp ⊢
  split_ifs at hp with hempty
  rw [if_neg hempty]
  exact h.foldlM_step? hp

/-- A file that is there keeps its content when something is added to the disk. -/
theorem Within.content? (h : d.Within d') (hcontent : d.content? directory path = some content) :
    d'.content? directory path = some content := by
  obtain ⟨p, hfind, hfile⟩ := content?_eq_some_iff.1 hcontent
  exact content?_eq_some_iff.2 ⟨p, h.find? hfind, h p _ hfile⟩

end ChangeDesk.Disk
