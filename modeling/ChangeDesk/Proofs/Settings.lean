import ChangeDesk.Proofs.Text.Basic
import ChangeDesk.Settings

/-!
The settings in effect against their normal form. The normal settings are those that come out the same when they
are stored and looked up again. What is looked up is normal but for one thing: the slashes are taken off the end
of an address last, so that nothing, or white space, may be left at its end.
-/
namespace ChangeDesk

open Text (Neat Hollow)

variable {value s : String} {key : String} {env plain : Environment} {stored : Option String}

/-- The texts that are taken as values come out as themselves. -/
theorem filled?_eq_self_iff : filled? s = some s ↔ Neat s := by
  constructor
  · intro h
    rw [filled?] at h
    split_ifs at h with hblank
    rw [← Option.some.inj h]
    exact Text.neat_trim (Bool.eq_false_iff.2 hblank)
  · intro h
    rw [filled?, h.isBlank, h.trim_eq]
    rfl

/-- What is taken as a value is neat, and no longer than what it is taken from. -/
theorem neat_of_filled? (h : filled? value = some s) :
    Neat s ∧ s.toList.length ≤ value.toList.length := by
  rw [filled?] at h
  split_ifs at h with hblank
  rw [← Option.some.inj h]
  exact ⟨Text.neat_trim (Bool.eq_false_iff.2 hblank), Text.length_trim_le value⟩

namespace Settings

theorem neat_of_pick (h : pick env key stored = some s) : Neat s := by
  rw [pick, Option.orElse_eq_orElse, Option.orElse_eq_or, Option.or_eq_some_iff] at h
  obtain h | ⟨-, h⟩ := h
  all_goals
    obtain ⟨value, -, hvalue⟩ := Option.bind_eq_some_iff.1 h
    exact (neat_of_filled? hvalue).1

theorem pick_of_unset (h : env key = none) : pick env key stored = stored.bind filled? := by
  rw [pick, h]
  rfl

theorem neat_defaultApiUrl : Neat (Text.trimEnd (· = '/') defaultApiUrl) := filled?_eq_self_iff.1 (by decide)

theorem apiUrl_resolve_of_unset {stored : StoredSettings} (h : env "NOQ_API_URL" = none) :
    (resolve stored env).apiUrl = Text.trimEnd (· = '/') ((stored.apiUrl.bind filled?).getD defaultApiUrl) := by
  rw [← pick_of_unset h]
  rfl

structure Unset (env : Environment) : Prop where
  apiUrl : env "NOQ_API_URL" = none
  token : env "NOQ_TOKEN" = none
  csrfToken : env "NOQ_CSRF_TOKEN" = none

def kept (s : Settings) : StoredSettings :=
  ⟨some s.apiUrl, s.token, s.csrfToken, some s.timeoutSeconds, some s.debounceMillis⟩

/-- What is always so in the settings in effect. -/
structure Tidy (s : Settings) : Prop where
  apiUrl : s.apiUrl.toList.getLast? ≠ some '/'
  token : ∀ t, s.token = some t → Neat t
  csrfToken : ∀ t, s.csrfToken = some t → Neat t
  timeout : 1 ≤ s.timeoutSeconds

structure Normal (s : Settings) : Prop extends Tidy s where
  address : Neat s.apiUrl

theorem one_le_max (n : UInt64) : 1 ≤ max n 1 := by
  change 1 ≤ if n ≤ 1 then 1 else n
  split_ifs with h
  · exact UInt64.le_refl 1
  · exact (UInt64.le_total 1 n).resolve_right h

theorem max_one_eq_self {n : UInt64} (h : 1 ≤ n) : max n 1 = n := by
  change (if n ≤ 1 then 1 else n) = n
  split_ifs with hle
  · exact UInt64.le_antisymm h hle
  · rfl

theorem tidy_resolve (stored : StoredSettings) (env : Environment) : (resolve stored env).Tidy where
  apiUrl := Text.getLast?_trimEnd_slash _
  token _ := neat_of_pick
  csrfToken _ := neat_of_pick
  timeout := one_le_max _

/-- A value that is set and neat is found again where it is stored. -/
theorem bind_filled?_of_neat {value : Option String} (h : ∀ t, value = some t → Neat t) :
    value.bind filled? = value := by
  cases value with
  | none => rfl
  | some t => exact filled?_eq_self_iff.2 (h t rfl)

/-- An address that is looked up as itself is neat: taking away white space and slashes only makes it shorter,
and the one that stands for a missing address is not blank. -/
theorem address_eq_self_iff {url : String} (h : url.toList.getLast? ≠ some '/') :
    Text.trimEnd (· = '/') ((filled? url).getD defaultApiUrl) = url ↔ Neat url := by
  constructor
  · intro heq
    cases hfilled : filled? url with
    | none =>
      rw [hfilled, Option.getD_none] at heq
      rw [← heq]
      exact neat_defaultApiUrl
    | some t =>
      obtain ⟨hneat, hlength⟩ := neat_of_filled? hfilled
      rw [hfilled, Option.getD_some] at heq
      have hstart := Text.trimEnd_isPrefix (· = '/') t
      rw [heq] at hstart
      rwa [String.toList_injective (hstart.eq_of_length_le hlength)]
  · intro hneat
    rw [filled?_eq_self_iff.2 hneat, Option.getD_some]
    refine Text.trimEnd_eq_self fun c hc => decide_eq_false ?_
    rintro rfl
    exact h hc

/-- The normal settings are those that come out the same when they are stored and looked up again. -/
theorem Tidy.resolve_kept_iff {s : Settings} (h : s.Tidy) (hplain : Unset plain) :
    resolve s.kept plain = s ↔ s.Normal := by
  have haddress := address_eq_self_iff h.apiUrl
  have hrest : resolve s.kept plain =
      { s with apiUrl := Text.trimEnd (· = '/') ((filled? s.apiUrl).getD defaultApiUrl) } := by
    rw [resolve, pick_of_unset hplain.apiUrl, pick_of_unset hplain.token, pick_of_unset hplain.csrfToken]
    simp only [kept, Option.bind_some, Option.getD_some, bind_filled?_of_neat h.token,
      bind_filled?_of_neat h.csrfToken, max_one_eq_self h.timeout]
  constructor
  · intro hsame
    have hurl : (resolve s.kept plain).apiUrl = s.apiUrl := by rw [hsame]
    rw [hrest] at hurl
    exact ⟨h, haddress.1 hurl⟩
  · intro hnormal
    rw [hrest, haddress.2 hnormal.address]

/-- The settings in effect are normal unless their address comes from a hollow one. -/
theorem normal_resolve_iff (stored : StoredSettings) (env : Environment) :
    (resolve stored env).Normal ↔ ∀ a, pick env "NOQ_API_URL" stored.apiUrl = some a → ¬ Hollow a := by
  have haddress : Neat (resolve stored env).apiUrl ↔
      ∀ a, pick env "NOQ_API_URL" stored.apiUrl = some a → ¬ Hollow a := by
    cases hpick : pick env "NOQ_API_URL" stored.apiUrl with
    | none =>
      refine iff_of_true ?_ fun a ha => nomatch ha
      rw [resolve, hpick]
      exact neat_defaultApiUrl
    | some a =>
      rw [resolve, hpick, Option.getD_some, Text.neat_trimEnd_iff (neat_of_pick hpick)]
      exact ⟨fun h b hb => Option.some.inj hb ▸ h, fun h => h a rfl⟩
  exact ⟨fun h => haddress.1 h.address, fun h => ⟨tidy_resolve stored env, haddress.2 h⟩⟩

/-- The settings in effect never end in a slash, never hold a blank token, and never wait for less than a second.
They are in their normal form, and stay as they are when they are stored and looked up again, exactly if the
address they come from is not hollow. -/
theorem resolve_normalizes (stored : StoredSettings) (env : Environment) (hplain : Unset plain) :
    (resolve stored env).Tidy ∧
    ((resolve stored env).Normal ↔ ∀ a, pick env "NOQ_API_URL" stored.apiUrl = some a → ¬ Hollow a) ∧
    (resolve (resolve stored env).kept plain = resolve stored env ↔
      ∀ a, pick env "NOQ_API_URL" stored.apiUrl = some a → ¬ Hollow a) :=
  ⟨tidy_resolve stored env, normal_resolve_iff stored env,
    ((tidy_resolve stored env).resolve_kept_iff hplain).trans (normal_resolve_iff stored env)⟩

/-- The settings of a user whose address ends in slashes, and whose token is in the environment. -/
theorem resolve_normalizes_slashes :
    (resolve (resolve ⟨some " https://noq.example.com// ", some "  ", none, some 0, none⟩
      fun key => if key = "NOQ_TOKEN" then some " t " else none).kept fun _ => none) =
    ⟨"https://noq.example.com", some "t", none, 1, 300⟩ := by
  refine ((resolve_normalizes _ _ ⟨rfl, rfl, rfl⟩).2.2.2 ?_).trans (by decide)
  intro a ha
  have haddress : some a = some "https://noq.example.com//" := ha.symm.trans (by decide)
  rw [Option.some.inj haddress]
  decide

/-- An address with white space in front of its slash: the white space is left, and is taken away only when the
settings are looked up again. -/
theorem not_resolve_normal :
    ¬ ∀ (stored : StoredSettings) (env : Environment),
      (resolve stored env).Normal ∧ resolve (resolve stored env).kept (fun _ => none) = resolve stored env := by
  intro h
  have hnormal := (h ⟨some "http://h /", none, none, none, none⟩ fun _ => none).1
  exact absurd (hnormal.address.last ' ' (by decide)) (by decide)

end Settings

end ChangeDesk
