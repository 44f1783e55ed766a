import ChangeDesk.Draft

/-!
The files of a draft by their positions. An edit is stored in the place of the first file of its path; the
paths and their order stay, and every other file stays as it is.
-/
namespace ChangeDesk.Draft

variable {file : ChangedFile} {files : List ChangedFile}

def slot? (path : String) (files : List ChangedFile) : Option Nat :=
  files.findIdx? (fun f => f.path = path)

/-- An edit is taken over exactly if a file of its path is there. -/
theorem replaceFile_fst {d : Draft} :
    (d.replaceFile file).1 = true ↔ file.path ∈ d.files.map ChangedFile.path := by
  have hfound : (d.file? file.path).isSome = true ↔ file.path ∈ d.files.map ChangedFile.path := by
    simp [file?]
  rw [replaceFile, ← hfound]
  split
  · rename_i h
    exact iff_of_true rfl h
  · rename_i h
    exact iff_of_false (by simp) h

theorem map_path_replaceFirst (file : ChangedFile) (files : List ChangedFile) :
    (replaceFirst file files).map ChangedFile.path = files.map ChangedFile.path := by
  induction files with
  | nil => rfl
  | cons f rest ih =>
    unfold replaceFirst
    split
    · rename_i h
      simp [h]
    · simp [ih]

theorem length_replaceFirst (file : ChangedFile) (files : List ChangedFile) :
    (replaceFirst file files).length = files.length := by
  simpa using congrArg List.length (map_path_replaceFirst file files)

theorem replaceFirst_eq_nil : replaceFirst file files = [] ↔ files = [] := by
  rw [← List.map_eq_nil_iff (f := ChangedFile.path), map_path_replaceFirst, List.map_eq_nil_iff]

theorem slot?_cons (path : String) (f : ChangedFile) (rest : List ChangedFile) :
    slot? path (f :: rest) = if f.path = path then some 0 else (slot? path rest).map (· + 1) := by
  simp [slot?, List.findIdx?_cons]

/-- What stands at a position after an edit was stored. -/
theorem getElem?_replaceFirst (file : ChangedFile) (files : List ChangedFile) (i : Nat) :
    (replaceFirst file files)[i]? = if slot? file.path files = some i then some file else files[i]? := by
  induction files generalizing i with
  | nil => rfl
  | cons f rest ih =>
    rw [replaceFirst, slot?_cons]
    by_cases h : f.path = file.path
    · rw [if_pos h, if_pos h]
      cases i <;> simp
    · rw [if_neg h, if_neg h]
      cases i with
      | zero => simp
      | succ i =>
        rw [List.getElem?_cons_succ, List.getElem?_cons_succ, ih i]
        by_cases hs : slot? file.path rest = some i <;> simp [hs]

/-- When the paths differ, every file stands at the first position of its path. -/
theorem slot?_eq_of_getElem? (hn : (files.map ChangedFile.path).Nodup) {i : Nat}
    (hi : files[i]? = some file) : slot? file.path files = some i := by
  induction files generalizing i with
  | nil => simp at hi
  | cons f rest ih =>
    rw [List.map_cons, List.nodup_cons] at hn
    rw [slot?_cons]
    cases i with
    | zero =>
      obtain rfl : f = file := by simpa using hi
      rw [if_pos rfl]
    | succ i =>
      rw [List.getElem?_cons_succ] at hi
      have hne : f.path ≠ file.path := fun he =>
        hn.1 (List.mem_map.2 ⟨file, List.mem_of_getElem? hi, he.symm⟩)
      rw [if_neg hne, ih hn.2 hi, Option.map_some]

/-- A file stands at the first position of its path if no file before it has the path. -/
theorem slot?_eq_some_iff {i : Nat} (hi : files[i]? = some file) :
    slot? file.path files = some i ↔ ∀ k < i, ∀ f, files[k]? = some f → f.path ≠ file.path := by
  obtain ⟨hlt, hfile⟩ := List.getElem?_eq_some_iff.1 hi
  rw [slot?, List.findIdx?_eq_some_iff_getElem]
  constructor
  · rintro ⟨hlt, -, hfirst⟩ k hk f hf hpath
    obtain ⟨hlt', rfl⟩ := List.getElem?_eq_some_iff.1 hf
    exact hfirst k hk (by simpa using hpath)
  · intro hfirst
    refine ⟨hlt, by simp [hfile], fun k hk => ?_⟩
    simpa using hfirst k hk _ (List.getElem?_eq_getElem (Nat.lt_trans hk hlt))

/-- The first position of a path is no later than any of its files. -/
theorem exists_slot?_le {i : Nat} (hi : files[i]? = some file) :
    ∃ j ≤ i, slot? file.path files = some j := by
  obtain ⟨hlt, hfile⟩ := List.getElem?_eq_some_iff.1 hi
  cases hslot : slot? file.path files with
  | none =>
    have hother := List.findIdx?_eq_none_iff.1 hslot file (List.mem_of_getElem? hi)
    simp at hother
  | some j =>
    obtain ⟨hj, -, hfirst⟩ := List.findIdx?_eq_some_iff_getElem.1 hslot
    exact ⟨j, Nat.le_of_not_lt fun hij => hfirst i hij (by simp [hfile]), rfl⟩

/-- An edit is stored at the first position of its path. -/
theorem replaceFirst_eq_set {i : Nat} (h : slot? file.path files = some i) :
    replaceFirst file files = files.set i file := by
  obtain ⟨hi, -, -⟩ := List.findIdx?_eq_some_iff_getElem.1 h
  refine List.ext_getElem? fun j => ?_
  rw [getElem?_replaceFirst, h, List.getElem?_set]
  by_cases he : i = j
  · subst he
    rw [if_pos rfl, if_pos rfl, if_pos hi]
  · rw [if_neg he, if_neg (fun hj => he (Option.some.inj hj))]

theorem set_eq_self {i : Nat} (h : files[i]? = some file) : files.set i file = files := by
  obtain ⟨hi, rfl⟩ := List.getElem?_eq_some_iff.1 h
  exact List.set_getElem_self hi

/-- Storing a file at one position or at another makes a difference, unless it stands at both already. -/
theorem set_eq_set_iff {i j : Nat} (hi : i < files.length) (hj : j < files.length) :
    files.set i file = files.set j file ↔ i = j ∨ (files[i]? = some file ∧ files[j]? = some file) := by
  constructor
  · intro h
    by_cases hij : i = j
    · exact .inl hij
    · refine .inr ⟨?_, ?_⟩
      · rw [← List.getElem?_set_ne (Ne.symm hij) (a := file), ← h, List.getElem?_set_self hi]
      · rw [← List.getElem?_set_ne hij (a := file), h, List.getElem?_set_self hj]
  · rintro (rfl | ⟨hi, hj⟩)
    · rfl
    · rw [set_eq_self hi, set_eq_self hj]

/-- The first file of a path after an edit was stored. -/
theorem find?_replaceFirst (file : ChangedFile) (files : List ChangedFile) (path : String) :
    (replaceFirst file files).find? (fun f => f.path = path) =
      if file.path = path then (files.find? (fun f => f.path = path)).map (fun _ => file)
      else files.find? (fun f => f.path = path) := by
  induction files with
  | nil => simp [replaceFirst]
  | cons f rest ih =>
    rw [replaceFirst]
    by_cases h : f.path = file.path
    · by_cases hp : file.path = path <;> simp [h, hp]
    · by_cases hf : f.path = path
      · have hne : ¬ file.path = path := fun hp => h (hf.trans hp.symm)
        rw [if_neg h, if_neg hne, List.find?_cons_of_pos (by simpa using hf),
          List.find?_cons_of_pos (by simpa using hf)]
      · rw [if_neg h, List.find?_cons_of_neg (by simpa using hf), ih,
          List.find?_cons_of_neg (by simpa using hf)]

def store : Option ChangedFile → List ChangedFile → List ChangedFile
  | none, files => files
  | some file, files => replaceFirst file files

/-- Storing an edit of one of the files changes what is found under its path, and nothing else. -/
theorem find?_store {edit : Option ChangedFile}
    (h : ∀ file, edit = some file → file.path ∈ files.map ChangedFile.path) (path : String) :
    (store edit files).find? (fun f => f.path = path) =
      (edit.filter (fun f => f.path = path)).or (files.find? (fun f => f.path = path)) := by
  cases edit with
  | none => rfl
  | some file =>
    rw [store, find?_replaceFirst]
    by_cases hp : file.path = path
    · obtain ⟨f, hf, hpath⟩ := List.mem_map.1 (h file rfl)
      have hfound : (files.find? (fun f => f.path = path)).isSome :=
        List.find?_isSome.2 ⟨f, hf, by simpa using hpath.trans hp⟩
      obtain ⟨g, hg⟩ := Option.isSome_iff_exists.1 hfound
      simp [hp, hg, Option.filter]
    · simp [hp, Option.filter]

end ChangeDesk.Draft
