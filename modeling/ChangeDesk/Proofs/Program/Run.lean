import ChangeDesk.Program.Run
import ChangeDesk.Proofs.Disk

/-!
How runs end. What a run does is told by what holds when it is done and what holds when it has failed, and the
steps of a run are taken together one after the other: a step begins where the one before it was done.
-/
namespace ChangeDesk.Program.Run

variable {α β : Type} {x : Run α} {a : α} {s s' : State} {done done' : α → State → Prop}
variable {failed failed' : State → Prop} {f : α → Run β} {next : β → State → Prop}
variable {w : Surroundings} {failure : Failure} {path content : String}

/-- A run ends in one way when it is done, and in another when it has failed. -/
structure Ends (x : Run α) (s : State) (done : α → State → Prop) (failed : State → Prop) : Prop where
  ok : ∀ a s', x.run.run s = (.ok a, s') → done a s'
  error : ∀ e s', x.run.run s = (.error e, s') → failed s'

theorem Ends.mono (h : x.Ends s done failed) (hdone : ∀ a s', done a s' → done' a s')
    (hfailed : ∀ s', failed s' → failed' s') : x.Ends s done' failed' :=
  ⟨fun a s' hrun => hdone a s' (h.ok a s' hrun), fun e s' hrun => hfailed s' (h.error e s' hrun)⟩

theorem Ends.weaken (h : x.Ends s done failed) (hfailed : ∀ s', failed s' → failed' s') : x.Ends s done failed' :=
  h.mono (fun _ _ h => h) hfailed

theorem run_bind (x : Run α) (f : α → Run β) (s : State) : (x >>= f).run.run s =
    match x.run.run s with
    | (.ok a, s') => (f a).run.run s'
    | (.error e, s') => (.error e, s') := by
  rw [ExceptT.run_bind, StateT.run_bind]
  obtain ⟨_ | _, _⟩ := x.run.run s <;> rfl

/-- Where the first part of a run fails, the run has failed; where it is done, the second part begins. -/
theorem Ends.bind (h : x.Ends s done failed) (hf : ∀ a s', done a s' → (f a).Ends s' next failed) :
    (x >>= f).Ends s next failed := by
  constructor
  · intro b s₂ hrun
    rw [run_bind] at hrun
    split at hrun
    · rename_i a s₁ hx
      exact (hf a s₁ (h.ok a s₁ hx)).ok b s₂ hrun
    · cases hrun
  · intro e s₂ hrun
    rw [run_bind] at hrun
    split at hrun
    · rename_i a s₁ hx
      exact (hf a s₁ (h.ok a s₁ hx)).error e s₂ hrun
    · rename_i hx
      cases hrun
      exact h.error _ _ hx

theorem ends_pure (h : done a s) : (pure a : Run α).Ends s done failed where
  ok := by
    rintro b s' ⟨⟩
    exact h
  error := by rintro e s' ⟨⟩

theorem ends_throw (h : failed s) : (throw failure : Run α).Ends s done failed where
  ok := by rintro b s' ⟨⟩
  error := by
    rintro e s' ⟨⟩
    exact h

theorem ends_get : (get : Run State).Ends s (fun a s' => a = s ∧ s' = s) failed where
  ok := by
    rintro b s' ⟨⟩
    exact ⟨rfl, rfl⟩
  error := by rintro e s' ⟨⟩

theorem ends_modify {g : State → State} : (modify g : Run Unit).Ends s (fun _ s' => s' = g s) failed where
  ok := by
    rintro b s' ⟨⟩
    rfl
  error := by rintro e s' ⟨⟩

theorem ends_orFail {found : Option α} :
    (orFail failure found).Ends s (fun a s' => found = some a ∧ s' = s) (fun s' => s' = s) := by
  cases found with
  | none => exact ends_throw rfl
  | some a => exact ends_pure ⟨rfl, rfl⟩

theorem ends_orFail_some {found : Option α} (h : found = some a) :
    (orFail failure found).Ends s (fun a' s' => a' = a ∧ s' = s) failed := by
  rw [h]
  exact ends_pure ⟨rfl, rfl⟩

/-! ## The disk -/

theorem ends_holds : (holds w path).Ends s (fun a s' => a = s.disk.holds w.directory path ∧ s' = s) failed := by
  refine ends_get.bind ?_
  rintro _ s' ⟨rfl, rfl⟩
  exact ends_pure ⟨rfl, rfl⟩

theorem ends_content? :
    (content? w path).Ends s (fun a s' => a = s.disk.content? w.directory path ∧ s' = s) failed := by
  refine ends_get.bind ?_
  rintro _ s' ⟨rfl, rfl⟩
  exact ends_pure ⟨rfl, rfl⟩

/-- The disk is changed, or stays as it is. -/
theorem ends_changeDisk {change : Disk → Option Disk} :
    (changeDisk failure change).Ends s (fun _ s' => change s.disk = some s'.disk) (fun s' => s' = s) := by
  refine ends_get.bind ?_
  rintro _ s₁ ⟨rfl, rfl⟩
  refine ends_orFail.bind ?_
  rintro disk _ ⟨hdisk, rfl⟩
  refine ends_modify.mono ?_ fun _ h => h
  rintro _ _ rfl
  exact hdisk

/-- Making the directory that holds a path only adds to the disk. -/
theorem ends_makeParent : (makeParent w failure path).Ends s
    (fun _ s' => s.disk.Within s'.disk) (fun s' => s.disk.Within s'.disk) := by
  unfold makeParent
  split
  · split
    · exact ends_pure (Disk.Within.refl _)
    · refine ends_changeDisk.mono (fun _ _ => Disk.within_withDirectories?) ?_
      rintro _ rfl
      exact Disk.Within.refl _
  · exact ends_pure (Disk.Within.refl _)

/-- A file is written as a whole, or the disk stays as it is. -/
theorem ends_writeFile : (writeFile w failure path content).Ends s
    (fun _ s' => s'.disk.content? w.directory path = some content) (fun s' => s' = s) :=
  ends_changeDisk.mono (fun _ _ => Disk.content?_write?) fun _ h => h

/-! ## The output -/

theorem ends_say {line : String} : (say line).Ends s (fun _ s' => s'.disk = s.disk) failed := by
  refine ends_modify.mono ?_ fun _ h => h
  rintro _ _ rfl
  rfl

/-- Writing lines to the output leaves the disk alone, and does not fail. -/
theorem ends_forM_say (lines : List String) :
    (lines.forM say).Ends s (fun _ s' => s'.disk = s.disk) failed := by
  induction lines generalizing s with
  | nil => exact ends_pure rfl
  | cons line rest ih => exact ends_say.bind fun _ s' hs' => ih.mono (fun _ _ h => h.trans hs') fun _ h => h

theorem ends_forM_say_if {shown : Prop} [Decidable shown] (lines : List String) :
    (if shown then lines.forM say else pure ()).Ends s (fun _ s' => s'.disk = s.disk) failed := by
  split
  · exact ends_forM_say lines
  · exact ends_pure rfl

end ChangeDesk.Program.Run
