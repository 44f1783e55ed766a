import ChangeDesk.Proofs.Settings
import ChangeDesk.Settings

/-!
What a change by hand makes of the stored settings, and what comes of it when they are looked up. Only the start of
an address is looked at, and the slashes are taken off its end after that: an address that is hollow behind its
scheme is stored in a form that is not the one in effect.
-/
namespace ChangeDesk.StoredSettings

open Text (Neat Hollow trim trimEnd)

variable {s c : StoredSettings} {apiUrl : Option String} {timeout : Option UInt64}
variable {given url start scheme rest : String} {env : Environment}

theorem startsWith_iff : startsWith start url = true ↔ ∃ rest, url = start ++ rest := by
  rw [startsWith, List.isPrefixOf_iff_prefix]
  constructor
  · rintro ⟨rest, hrest⟩
    refine ⟨String.ofList rest, String.toList_injective ?_⟩
    rw [String.toList_append, String.toList_ofList, hrest]
  · rintro ⟨rest, rfl⟩
    rw [String.toList_append]
    exact List.prefix_append _ _

def IsWeb (url : String) : Prop := startsWith "http://" url = true ∨ startsWith "https://" url = true

instance (url : String) : Decidable (IsWeb url) := inferInstanceAs (Decidable (_ ∨ _))

def schemes : List String := ["http://", "https://"]

theorem isWeb_iff : IsWeb url ↔ ∃ scheme ∈ schemes, ∃ rest, url = scheme ++ rest := by
  simp [IsWeb, schemes, startsWith_iff]

/-- An address is taken if it is one of the web, and is stored without the slashes at its end. -/
theorem address?_eq_ok_iff : address? given = .ok url ↔
    IsWeb (trim given) ∧ url = trimEnd (· = '/') (trim given) := by
  simp only [address?, IsWeb, ← Bool.or_eq_true]
  split_ifs with h
  · simp [h, eq_comm]
  · simp [h]

theorem neat_of_isWeb (h : IsWeb (trim given)) : Neat (trim given) := by
  refine Text.neat_trim (Bool.eq_false_iff.2 fun hblank => ?_)
  rw [Text.trim_of_isBlank hblank] at h
  exact absurd h (by decide)

/-! ## What is stored -/

/-- Settings that differ at most in what was given. -/
structure Changed (apiUrl : Option String) (timeout : Option UInt64) (s c : StoredSettings) : Prop where
  apiUrl : apiUrl = none → c.apiUrl = s.apiUrl
  token : c.token = s.token
  csrfToken : c.csrfToken = s.csrfToken
  timeoutSeconds : c.timeoutSeconds = timeout.or s.timeoutSeconds
  debounceMillis : c.debounceMillis = s.debounceMillis

theorem changeAddress_eq_ok (h : changeAddress apiUrl s = .ok c) :
    apiUrl = none ∧ c = s ∨
      ∃ given url, apiUrl = some given ∧ address? given = .ok url ∧ c = { s with apiUrl := some url } := by
  cases apiUrl with
  | none =>
    rw [changeAddress] at h
    exact .inl ⟨rfl, (Except.ok.inj h).symm⟩
  | some given =>
    rw [changeAddress] at h
    cases hurl : address? given with
    | error cause =>
      rw [hurl] at h
      cases h
    | ok url =>
      rw [hurl] at h
      exact .inr ⟨given, url, rfl, hurl, (Except.ok.inj h).symm⟩

theorem changeTimeout_eq_ok (h : changeTimeout timeout s = .ok c) :
    c = { s with timeoutSeconds := timeout.or s.timeoutSeconds } := by
  cases timeout with
  | none =>
    rw [changeTimeout] at h
    exact (Except.ok.inj h).symm
  | some seconds =>
    rw [changeTimeout] at h
    split_ifs at h
    exact (Except.ok.inj h).symm

/-- What is stored when a change is not refused. -/
theorem change_eq_ok (h : s.change apiUrl timeout = .ok c) :
    Changed apiUrl timeout s c ∧
      ∀ given, apiUrl = some given → ∃ url, address? given = .ok url ∧ c.apiUrl = some url := by
  rw [change] at h
  cases hurl : changeAddress apiUrl s with
  | error cause =>
    rw [hurl] at h
    cases h
  | ok s' =>
    rw [hurl] at h
    obtain rfl := changeTimeout_eq_ok h
    obtain ⟨rfl, rfl⟩ | ⟨given, url, rfl, hgiven, rfl⟩ := changeAddress_eq_ok hurl
    · exact ⟨⟨fun _ => rfl, rfl, rfl, rfl, rfl⟩, fun _ h => nomatch h⟩
    · refine ⟨⟨(nomatch ·), rfl, rfl, rfl, rfl⟩, fun given' h => ⟨url, ?_, rfl⟩⟩
      rw [← Option.some.inj h, hgiven]

/-! ## What is in effect -/

/-- The address in effect is one of the web that does not end in a slash, and the one that is stored. -/
structure Faithful (c : StoredSettings) (env : Environment) : Prop where
  web : IsWeb (Settings.resolve c env).apiUrl
  last : (Settings.resolve c env).apiUrl.toList.getLast? ≠ some '/'
  stored : c.apiUrl = some (Settings.resolve c env).apiUrl

/-- An address without its slashes is one of the web, and neat, unless it is hollow behind its scheme. -/
theorem isWeb_and_neat_iff (hscheme : scheme ∈ schemes) (h : Neat (scheme ++ rest)) :
    IsWeb (trimEnd (· = '/') (scheme ++ rest)) ∧ Neat (trimEnd (· = '/') (scheme ++ rest)) ↔ ¬ Hollow rest := by
  rw [Text.neat_trimEnd_iff h]
  by_cases hrest : trimEnd (· = '/') rest = ""
  · refine iff_of_false (fun hboth => ?_) (not_not_intro (Text.hollow_of_trimEnd hrest))
    rw [Text.trimEnd_append_slashes hrest] at hboth
    -- Only the scheme is left, and its own slashes are gone, too.
    obtain rfl | rfl : scheme = "http://" ∨ scheme = "https://" := by simpa [schemes] using hscheme
    · exact absurd hboth.1 (by decide)
    · exact absurd hboth.1 (by decide)
  · rw [Text.hollow_append_iff hrest, Text.trimEnd_append hrest]
    exact and_iff_right (isWeb_iff.2 ⟨scheme, hscheme, _, rfl⟩)

/-- What is stored of an address is what is in effect unless the address is hollow behind its scheme. -/
theorem faithful_iff (hscheme : scheme ∈ schemes) (hgiven : trim given = scheme ++ rest)
    (hstored : c.apiUrl = some (trimEnd (· = '/') (trim given))) (henv : env "NOQ_API_URL" = none) :
    Faithful c env ↔ ¬ Hollow rest := by
  have hneat : Neat (scheme ++ rest) := by
    rw [← hgiven]
    exact neat_of_isWeb (isWeb_iff.2 ⟨scheme, hscheme, rest, hgiven⟩)
  have heffect : (Settings.resolve c env).apiUrl =
      trimEnd (· = '/') ((filled? (trimEnd (· = '/') (scheme ++ rest))).getD Settings.defaultApiUrl) := by
    rw [Settings.apiUrl_resolve_of_unset henv, hstored, hgiven, Option.bind_some]
  have hsame := Settings.address_eq_self_iff (Text.getLast?_trimEnd_slash (scheme ++ rest))
  rw [← heffect] at hsame
  rw [← isWeb_and_neat_iff hscheme hneat, ← hsame]
  constructor
  · intro h
    have heq := Option.some.inj (hstored.symm.trans h.stored)
    rw [hgiven] at heq
    rw [heq]
    exact ⟨h.web, rfl⟩
  · rintro ⟨hweb, heq⟩
    refine ⟨?_, ?_, ?_⟩
    · rwa [heq]
    · rw [heq]
      exact Text.getLast?_trimEnd_slash _
    · rw [heq, hstored, hgiven]

end ChangeDesk.StoredSettings
