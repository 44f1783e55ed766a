import ChangeDesk.Api.Response
import ChangeDesk.Proofs.Api.Message
import ChangeDesk.Proofs.Json.Reading

/-!
What a status and a body come to. Only the statuses of success give a payload, and every other one gives an error with
words to show. A payload that was put into an envelope is taken out of it again, whatever else is in the envelope, as
long as none of it nests too deep to be read.
-/
namespace ChangeDesk

variable {s : String} {status : Nat} {body : String}

namespace Json

variable {v w : Json} {members ms : List (String × Json)} {key : String}

/-! ## Blank texts -/

theorem shapeOf?_isSpace {c : Char} (h : Text.isSpace c = true) : shapeOf? c = none := by
  have hcode : c.toNat ≤ 32 ∨ 133 ≤ c.toNat := by
    simp only [Text.isSpace, Bool.or_eq_true, Bool.and_eq_true, decide_eq_true_eq, beq_iff_eq] at h
    omega
  have hne (d : Char) (hd : 32 < d.toNat ∧ d.toNat < 133) : c ≠ d := by
    rintro rfl
    omega
  have hdigit : digitValue? c = none := by
    rw [digitValue?, if_neg]
    rintro ⟨hlow, hhigh⟩
    have hlow' : 48 ≤ c.toNat := hlow
    have hhigh' : c.toNat ≤ 57 := hhigh
    omega
  simp [shapeOf?, hne 'n' (by decide), hne 't' (by decide), hne 'f' (by decide), hne '"' (by decide),
    hne '[' (by decide), hne '\x7b' (by decide), hne '-' (by decide), hdigit]

/-- What is read starts, behind the blanks, with a character that says what it is. -/
theorem exists_shape_of_value? {fuel depth : Nat} {cs : List Char} {r : Json × List Char}
    (h : value? fuel depth cs = some r) : ∃ c t, skipBlanks cs = c :: t ∧ shapeOf? c ≠ none := by
  cases fuel with
  | zero => simp [value?] at h
  | succ fuel =>
    rw [value?] at h
    split at h
    iterate 6
      · rename_i hstart
        exact ⟨_, _, hstart, by decide⟩
    · cases hliteral : literal? (skipBlanks cs) with
      | none => simp [hliteral] at h
      | some l =>
        obtain ⟨c, t, hstart, hc⟩ := shapeOf?_of_literal? hliteral
        exact ⟨c, t, hstart, by rw [hc]; simp⟩

/-- A blank text is no value. -/
theorem parse?_of_isBlank (h : Text.isBlank s = true) : parse? s = none := by
  rw [parse?, parseWithin?]
  cases hvalue : value? (2 * s.toList.length + 2) nestingLimit s.toList with
  | none => rfl
  | some r =>
    obtain ⟨c, t, hstart, hc⟩ := exists_shape_of_value? hvalue
    have hmem : c ∈ s.toList := (List.dropWhile_suffix _).subset (hstart ▸ List.mem_cons_self)
    exact absurd (shapeOf?_isSpace (List.all_eq_true.1 h c hmem)) hc

theorem isBlank_compact (v : Json) : Text.isBlank v.compact = false := by
  obtain ⟨c, t, hv, hc⟩ := v.exists_head
  have hspace : Text.isSpace c = false := by
    refine Bool.eq_false_iff.2 fun h => ?_
    rw [shapeOf?_isSpace h] at hc
    cases hc
  simp [Text.isBlank, compact, hv, hspace]

/-! ## Members among others -/

/-- Members can be read together, and the one that is known to be read as a value is. -/
theorem exists_reads_among (h : ∀ e ∈ members, e.1 = key → Reads e.2 v) :
    ∃ ms, List.Forall₂ ReadsMember members ms ∧ ∀ d ∈ ms, d.1 = key → d.2 = v := by
  induction members with
  | nil => exact ⟨[], .nil, by simp⟩
  | cons e rest ih =>
    obtain ⟨he, hrest⟩ := List.forall_mem_cons.1 h
    obtain ⟨ms, hms, hkey⟩ := ih hrest
    by_cases hk : e.1 = key
    · exact ⟨(e.1, v) :: ms, .cons ⟨rfl, he hk⟩ hms, List.forall_mem_cons.2 ⟨fun _ => rfl, hkey⟩⟩
    · obtain ⟨w, hw⟩ := exists_reads e.2
      exact ⟨(e.1, w) :: ms, .cons ⟨rfl, hw⟩ hms, List.forall_mem_cons.2 ⟨fun h => absurd h hk, hkey⟩⟩

theorem map_fst_of_reads (h : List.Forall₂ ReadsMember members ms) :
    ms.map Prod.fst = members.map Prod.fst := by
  induction h with
  | nil => rfl
  | cons he _ ih => rw [List.map_cons, List.map_cons, ih, he.1]

/-- A member that is there has the one value that all members of its key have. -/
theorem member?_ofMembers (hkey : key ∈ ms.map Prod.fst) (h : ∀ d ∈ ms, d.1 = key → d.2 = v) :
    (ofMembers ms).member? key = some v := by
  have hlookup : (ofMembers ms).member? key = ms.reverse.lookup key := SortedMap.get?_ofList ms key
  rw [hlookup]
  cases hfound : ms.reverse.lookup key with
  | none =>
    obtain ⟨d, hd, hdkey⟩ := List.mem_map.1 hkey
    have := List.lookup_eq_none_iff.1 hfound d (List.mem_reverse.2 hd)
    simp [hdkey] at this
  | some w =>
    obtain ⟨front, rest, hparts, -⟩ := List.lookup_eq_some_iff.1 hfound
    have hmem : (key, w) ∈ ms := by
      rw [← List.mem_reverse, hparts]
      simp
    exact congrArg some (h _ hmem rfl)

/-- A member whose numbers are integers comes back from among any others, if they nest no deeper than it may. -/
theorem exists_parse?_insert (hi : v.Integral) (hc : v.Canonical) (key : String) (m : SortedMap Json) :
    ∃ w, w.member? key = some v ∧ parse? (ofMap (m.insert key v)).compact =
      if (ofMap (m.insert key v)).depth ≤ nestingLimit then some w else none := by
  have hvalue : ∀ e ∈ (m.insert key v).entries, e.1 = key → Reads e.2 v := by
    rintro ⟨k, x⟩ he rfl
    have hget := (SortedMap.mem_entries_iff _).1 he
    rw [SortedMap.get?_insert, if_pos rfl] at hget
    obtain rfl := Option.some.inj hget
    have hreads := v.reads_sorted hi
    rwa [v.sorted_of_canonical hc] at hreads
  obtain ⟨ms, hms, hdata⟩ := exists_reads_among hvalue
  refine ⟨ofMembers ms, member?_ofMembers ?_ hdata, (reads_object hms).parse?_compact⟩
  have hget : (m.insert key v).get? key = some v := by rw [SortedMap.get?_insert, if_pos rfl]
  rw [map_fst_of_reads hms]
  exact List.mem_map_of_mem ((SortedMap.mem_entries_iff _).2 hget)

/-- An object nests one deeper than its members do. -/
theorem depth_insert_le {n : Nat} {m : SortedMap Json} (hv : v.depth ≤ n) (hm : ∀ e ∈ m.entries, e.2.depth ≤ n) :
    (ofMap (m.insert key v)).depth ≤ n + 1 := by
  refine Nat.succ_le_succ (depthMembers_le_iff.2 ?_)
  rintro ⟨k, x⟩ he
  have hget := (SortedMap.mem_entries_iff _).1 he
  rw [SortedMap.get?_insert] at hget
  split at hget
  · obtain rfl := Option.some.inj hget
    exact hv
  · exact hm (k, x) ((SortedMap.mem_entries_iff _).2 hget)

end Json

namespace Api

variable {v : Json}

/-! ## Statuses -/

theorem interpret_of_success (h : 200 ≤ status ∧ status < 300) (body : String) : interpret status body =
    match bodyValue? body with
    | some v => .ok (unwrapEnvelope v)
    | none => .error (.decode "body is not JSON") := by
  have hne : status ≠ 401 := by omega
  cases hbody : bodyValue? body with
  | none => simp [interpret, hne, h, hbody]
  | some v => simp [interpret, hne, h, hbody]

theorem interpret_of_refusal (h : ¬ (200 ≤ status ∧ status < 300)) (hne : status ≠ 401) (body : String) :
    interpret status body =
      .error (.rejected status (((bodyValue? body).bind extractMessage).getD (refusalText status))) := by
  rw [interpret, if_neg hne, if_neg h]

theorem bodyValue?_of_parse? (h : Json.parse? body = some v) : bodyValue? body = some v := by
  have hblank : Text.isBlank body = false := by
    refine Bool.eq_false_iff.2 fun hblank => ?_
    rw [Json.parse?_of_isBlank hblank] at h
    cases h
  rw [bodyValue?, hblank]
  exact h

theorem isBlank_refusalText (status : Nat) : Text.isBlank (refusalText status) = false := by
  unfold refusalText
  split
  · decide
  · have hwords : Text.isBlank "Request failed with status " = false := by decide
    rw [Text.isBlank] at hwords ⊢
    rw [String.toList_append, List.all_append, hwords, Bool.false_and]

theorem isBlank_of_extractMessage (h : extractMessage v = some s) : Text.isBlank s = false := by
  obtain ⟨p, hp⟩ := exists_findsFirst h
  exact hp.finds.2

/-- The words of a refusal: never blank, and those of the body if it has some. -/
theorem exists_rejected (h : ¬ (200 ≤ status ∧ status < 300)) (hne : status ≠ 401) (body : String) :
    ∃ message, interpret status body = .error (.rejected status message) ∧ Text.isBlank message = false ∧
      ∀ v s, Json.parse? body = some v → extractMessage v = some s → message = s := by
  refine ⟨_, interpret_of_refusal h hne body, ?_, fun v s hv hs => ?_⟩
  · cases hmessage : (bodyValue? body).bind extractMessage with
    | none => exact isBlank_refusalText status
    | some s =>
      obtain ⟨v, -, hv⟩ := Option.bind_eq_some_iff.1 hmessage
      exact isBlank_of_extractMessage hv
  · rw [bodyValue?_of_parse? hv, Option.bind_some, hs, Option.getD_some]

/-- A payload comes out of the envelope that it was put into, unless something in it nests too deep. -/
theorem interpret_enveloped (h : 200 ≤ status ∧ status < 300) (hi : v.Integral) (hc : v.Canonical)
    (m : SortedMap Json) : interpret status (Json.ofMap (m.insert "data" v)).compact =
      if (Json.ofMap (m.insert "data" v)).depth ≤ Json.nestingLimit then .ok v
      else .error (.decode "body is not JSON") := by
  obtain ⟨w, hmember, hparse⟩ := Json.exists_parse?_insert hi hc "data" m
  rw [interpret_of_success h, bodyValue?, Json.isBlank_compact, if_neg Bool.false_ne_true, hparse]
  by_cases hdepth : (Json.ofMap (m.insert "data" v)).depth ≤ Json.nestingLimit
  · simp only [if_pos hdepth, unwrapEnvelope, hmember, Option.getD_some]
  · simp only [if_neg hdepth]

/-- A payload without an envelope is the body itself. -/
theorem interpret_bare (h : 200 ≤ status ∧ status < 300) (hi : v.Integral) (hc : v.Canonical)
    (hdepth : v.depth ≤ Json.nestingLimit) (hdata : v.member? "data" = none) :
    interpret status v.compact = .ok v := by
  have hparse : Json.parse? v.compact = some v := by
    rw [Json.parse?_compact hi, if_pos hdepth, v.sorted_of_canonical hc]
  rw [interpret_of_success h, bodyValue?_of_parse? hparse]
  simp only [unwrapEnvelope, hdata, Option.getD_none]

/-- Only a status of success gives a payload, only 401 says that the session has expired, and every other status is a
refusal with words to show, which are those of the body if it has some. With a status of success, a value of integers
that nests at most 126 deep is got back from its text, and also out of an envelope with any other members that nest at
most 126 deep; a blank body is `null`. -/
theorem interpret_exact (status : Nat) (body : String) :
    (∀ v, interpret status body = .ok v → 200 ≤ status ∧ status < 300) ∧
    (interpret status body = .error .sessionExpired ↔ status = 401) ∧
    (¬ (200 ≤ status ∧ status < 300) → status ≠ 401 → ∃ message,
      interpret status body = .error (.rejected status message) ∧ Text.isBlank message = false ∧
        ∀ v s, Json.parse? body = some v → extractMessage v = some s → message = s) ∧
    (200 ≤ status ∧ status < 300 →
      (Text.isBlank body = true → interpret status body = .ok .null) ∧
      ∀ v : Json, v.Integral → v.Canonical → v.depth ≤ 126 →
        (∀ m : SortedMap Json, (∀ e ∈ m.entries, e.2.depth ≤ 126) →
          interpret status (Json.ofMap (m.insert "data" v)).compact = .ok v) ∧
        (v.member? "data" = none → interpret status v.compact = .ok v)) := by
  by_cases hexpired : status = 401
  · have hinterpret : interpret status body = .error .sessionExpired := by rw [interpret, if_pos hexpired]
    subst hexpired
    refine ⟨fun v hv => ?_, by simp [hinterpret], fun _ hne => absurd rfl hne, fun h => absurd h (by decide)⟩
    rw [hinterpret] at hv
    cases hv
  · by_cases hsuccess : 200 ≤ status ∧ status < 300
    · refine ⟨fun _ _ => hsuccess, ?_, fun h => absurd hsuccess h, fun _ => ⟨fun hblank => ?_, ?_⟩⟩
      · refine iff_of_false (fun h => ?_) hexpired
        rw [interpret_of_success hsuccess] at h
        split at h <;> cases h
      · rw [interpret_of_success hsuccess, bodyValue?, if_pos hblank]
        rfl
      · intro v hi hc hdepth
        refine ⟨fun m hm => ?_, interpret_bare hsuccess hi hc (Nat.le_succ_of_le hdepth)⟩
        have hnested : (Json.ofMap (m.insert "data" v)).depth ≤ Json.nestingLimit :=
          Json.depth_insert_le hdepth hm
        rw [interpret_enveloped hsuccess hi hc, if_pos hnested]
    · obtain ⟨message, hmessage, hwords⟩ := exists_rejected hsuccess hexpired body
      refine ⟨fun v hv => ?_, iff_of_false (fun h => ?_) hexpired, fun _ _ => ⟨message, hmessage, hwords⟩,
        fun h => absurd h hsuccess⟩
      · rw [hmessage] at hv
        cases hv
      · rw [hmessage] at h
        cases h

/-- An envelope is not read if another member in it nests 127 deep. -/
theorem interpret_deep_member :
    let v := Json.number .zero
    let m := SortedMap.empty.insert "x" (Json.nest 127 .null)
    v.Integral ∧ v.Canonical ∧ v.depth ≤ 126 ∧
      interpret 200 (Json.ofMap (m.insert "data" v)).compact = .error (.decode "body is not JSON") := by
  intro v m
  have hi : v.Integral := trivial
  have hc : v.Canonical := trivial
  have hmember : (m.insert "data" v).get? "x" = some (Json.nest 127 .null) := by
    rw [SortedMap.get?_insert, if_neg (by decide), SortedMap.get?_insert, if_pos rfl]
  have hdeep : ¬ (Json.ofMap (m.insert "data" v)).depth ≤ Json.nestingLimit := by
    intro hle
    have := Json.depthMembers_le_iff.1 (Nat.le_of_succ_le_succ hle) _ ((SortedMap.mem_entries_iff _).2 hmember)
    rw [Json.depth_nest] at this
    exact absurd this (by decide)
  refine ⟨hi, hc, by decide, ?_⟩
  rw [interpret_enveloped (by decide) hi hc, if_neg hdeep]

end Api

end ChangeDesk
