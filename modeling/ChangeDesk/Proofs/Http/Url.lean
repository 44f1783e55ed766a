import ChangeDesk.Http.Url
import ChangeDesk.Proofs.Http.Form
import ChangeDesk.Proofs.Text.Basic

/-!
Where the query of an address stands. A question mark ends the path and is never written inside of one, so the
query that is asked for begins behind the first question mark of the target.
-/
namespace ChangeDesk

namespace Http.Percent

/-- What encoding leaves as it is, and percent signs and digits. -/
theorem mem_encode {keep : Char → Bool} {cs : List Char} {d : Char} (h : d ∈ encode keep cs) :
    keep d = true ∨ d = '%' ∨ Form.keeps d = true := by
  obtain ⟨c, -, hd⟩ := List.mem_flatMap.1 h
  split_ifs at hd with hkeep
  · rw [List.mem_singleton.1 hd]
    exact .inl hkeep
  · exact .inr (Form.mem_charCode hd)

end Http.Percent

namespace Http.Url

open Text

variable {u : Url} {s scheme : String} {cs rest : List Char} {mark : Char}

theorem cut_snd_of_not_mem (h : mark ∉ cs) : (cut mark cs).2 = none := by
  rw [cut, splitFirst?_of_not_mem h]

theorem cut_fst_subset (mark : Char) (cs : List Char) : (cut mark cs).1 ⊆ cs := by
  rw [cut]
  cases hsplit : splitFirst? mark cs with
  | none => exact List.Subset.refl cs
  | some parts => exact (splitFirst?_subset hsplit).1

theorem splitScheme?_subset (h : splitScheme? cs = some (scheme, rest)) : rest ⊆ cs := by
  unfold splitScheme? at h
  split at h
  · rename_i hsplit
    split at h
    · obtain ⟨-, rfl⟩ := Prod.mk.inj (Option.some.inj h)
      exact (splitFirst?_subset hsplit).2
    · cases h
  · cases h

/-- What an address is read from: the text behind its scheme, in which a number sign ends the query and a
question mark the place. -/
theorem parse?_eq_some (h : parse? s = some u) :
    ∃ rest ⊆ s.toList, place? u.scheme (cut '?' (cut '#' rest).1).1 = some (u.host, u.port, u.path) ∧
      ((cut '?' (cut '#' rest).1).2 = none → u.query = none) := by
  simp only [parse?, Option.bind_eq_bind, Option.bind_eq_some_iff] at h
  obtain ⟨⟨scheme, rest⟩, hscheme, place, hplace, hu⟩ := h
  obtain rfl := Option.some.inj hu
  refine ⟨rest, ?_, hplace, fun hnone => by simp only [hnone, Option.map_none]⟩
  calc rest ⊆ List.filter _ _ := splitScheme?_subset hscheme
    _ ⊆ dropEndWhile _ _ := List.filter_subset_self _
    _ ⊆ List.dropWhile _ s.toList := Text.dropEndWhile_subset _ _
    _ ⊆ s.toList := List.dropWhile_subset _

/-- An address without a question mark has no query. -/
theorem query_of_parse? (h : parse? s = some u) (hs : '?' ∉ s.toList) : u.query = none := by
  obtain ⟨rest, hrest, -, hquery⟩ := parse?_eq_some h
  exact hquery (cut_snd_of_not_mem fun hmem => hs (hrest (cut_fst_subset _ _ hmem)))

theorem pathKeeps_question : pathKeeps '?' = false := by simp [pathKeeps]

theorem not_mem_segmentsText (segments : List (List Char)) : '?' ∉ (segmentsText segments).toList := by
  intro h
  rw [segmentsText, String.toList_ofList] at h
  obtain ⟨segment, -, hmem⟩ := List.mem_flatMap.1 h
  rcases List.mem_cons.1 hmem with hslash | hmem
  · exact absurd hslash (by decide)
  · rcases Percent.mem_encode hmem with hkeep | hpercent | hkeep
    · exact Bool.false_ne_true (pathKeeps_question.symm.trans hkeep)
    · exact absurd hpercent (by decide)
    · exact absurd hkeep (by decide)

theorem not_mem_pathText (known : Bool) (cs : List Char) : '?' ∉ (pathText known cs).toList := by
  unfold pathText
  dsimp only
  split
  · split <;> decide
  · exact not_mem_segmentsText _
  · exact not_mem_segmentsText _

theorem not_mem_path_of_located? {host : Option Host} {port : Option Nat} {path : String}
    (h : located? scheme cs = some (host, port, path)) : '?' ∉ path.toList := by
  simp only [located?, Option.bind_eq_bind, Option.bind_eq_some_iff] at h
  obtain ⟨place, -, hplace⟩ := h
  obtain ⟨-, -, rfl⟩ : _ ∧ _ ∧ _ := by simpa using hplace
  exact not_mem_pathText _ _

/-- The path of an address that can be asked for holds no question mark. -/
theorem not_mem_path (h : parse? s = some u) (hscheme : u.scheme = "http" ∨ u.scheme = "https") :
    '?' ∉ u.path.toList := by
  obtain ⟨rest, -, hplace, -⟩ := parse?_eq_some h
  rcases hscheme with hscheme | hscheme
  all_goals
    rw [hscheme] at hplace
    exact not_mem_path_of_located? hplace

theorem scheme_of_isSendable (h : u.isSendable = true) : u.scheme = "http" ∨ u.scheme = "https" := by
  simp only [isSendable, Bool.and_eq_true, Bool.or_eq_true, beq_iff_eq] at h
  exact h.1.1

def pairs (u : Url) : List (String × String) := Form.decode (u.query.getD "")

/-- The query of an address as further pairs are put behind it. -/
def ownQuery (u : Url) : String :=
  if u.query.getD "" = "" then "" else u.query.getD "" ++ "&"

theorem query_withPairs (u : Url) {ps : List (String × String)} (hps : ps ≠ []) :
    (u.withPairs ps).query = some (u.ownQuery ++ Form.encode ps) := by
  rw [withPairs, if_neg (by simpa using hps), ownQuery]
  cases u.query with
  | none => simp
  | some query => by_cases hempty : query = "" <;> simp [hempty, Option.filter]

/-- Further pairs are read behind the ones that an address has. -/
theorem decode_ownQuery_append (u : Url) (ps : List (String × String)) :
    Form.decode (u.ownQuery ++ Form.encode ps) = u.pairs ++ ps := by
  rw [ownQuery, pairs]
  split
  · rename_i hempty
    simp [hempty, Form.decode_encode]
  · rw [Form.decode_append, Form.decode_encode]

/-- Pairs that take no more room than others can be sent wherever those can. -/
theorem isSendable_withPairs {ps ps' : List (String × String)} (hps : ps ≠ []) (hps' : ps' ≠ [])
    (hsize : (Form.encode ps').utf8ByteSize ≤ (Form.encode ps).utf8ByteSize)
    (h : (u.withPairs ps).isSendable = true) : (u.withPairs ps').isSendable = true := by
  have htext : (u.withPairs ps').text.utf8ByteSize ≤ (u.withPairs ps).text.utf8ByteSize := by
    simp only [text, query_withPairs u hps, query_withPairs u hps', behind, String.utf8ByteSize_append]
    simp only [withPairs, authority]
    omega
  simp only [isSendable, Bool.and_eq_true, decide_eq_true_eq] at h ⊢
  exact ⟨⟨h.1.1, htext.trans h.1.2⟩, h.2⟩

end Http.Url

end ChangeDesk
