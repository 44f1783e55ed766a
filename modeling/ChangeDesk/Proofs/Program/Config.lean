import ChangeDesk.Program
import ChangeDesk.Proofs.Program.Run
import ChangeDesk.Proofs.Settings.Change

/-!
What the command for the settings leaves on the disk. Whatever happens before the settings are written only adds to
the disk, so that a run that fails leaves those that were stored; and what is written is what is loaded again.
-/
namespace ChangeDesk.Program

open Run StoredSettings
open Text (Hollow trim)

variable {w : Surroundings} {s s' : State} {c stored : StoredSettings}
variable {list : Bool} {apiUrl : Option String} {timeout : Option UInt64}

/-- The stored settings: those that a run loads. -/
def Stores (w : Surroundings) (s : State) (c : StoredSettings) : Prop := ((loadSettings w).run.run s).1 = .ok c

def Filed (w : Surroundings) (s : State) (c : StoredSettings) : Prop :=
  ∃ content, s.disk.content? w.directory (Settings.configFile w.environment) = some content ∧
    ofText? content = some c

theorem Filed.within (h : Filed w s c) (hdisk : s.disk.Within s'.disk) : Filed w s' c := by
  obtain ⟨content, hcontent, hc⟩ := h
  exact ⟨content, hdisk.content? hcontent, hc⟩

theorem stores_of_ends (h : (loadSettings w).Ends s (fun c' _ => c' = c) fun _ => False) : Stores w s c := by
  rw [Stores]
  cases hrun : (loadSettings w).run.run s with
  | mk r s' =>
    cases r with
    | ok c' => rw [h.ok c' s' hrun]
    | error e => exact (h.error e s' hrun).elim

/-- What is in the file is what is loaded. -/
theorem Filed.stores (h : Filed w s c) : Stores w s c := by
  obtain ⟨content, hcontent, hc⟩ := h
  refine stores_of_ends ?_
  rw [loadSettings]
  refine ends_holds.bind ?_
  rintro _ s₁ ⟨rfl, rfl⟩
  rw [if_pos (Disk.holds_of_content? hcontent)]
  refine ends_content?.bind ?_
  rintro _ s₁ ⟨rfl, rfl⟩
  refine (ends_orFail_some hcontent).bind ?_
  rintro _ _ ⟨rfl, rfl⟩
  exact (ends_orFail_some hc).mono (fun _ _ h => h.1) fun _ h => h

/-- Once the settings are loaded, there is a file of them; a missing one is made. -/
theorem ends_loadSettings : (loadSettings w).Ends s (fun c s' => Filed w s' c) (fun _ => True) := by
  rw [loadSettings]
  refine ends_holds.bind ?_
  rintro _ s₁ ⟨rfl, rfl⟩
  split
  · refine ends_content?.bind ?_
    rintro _ s₁ ⟨rfl, rfl⟩
    refine Ends.bind (ends_orFail.weaken fun _ _ => trivial) ?_
    rintro content _ ⟨hcontent, rfl⟩
    refine ends_orFail.mono ?_ fun _ _ => trivial
    rintro c _ ⟨hc, rfl⟩
    exact ⟨content, hcontent, hc⟩
  · refine Ends.bind (ends_makeParent.weaken fun _ _ => trivial) fun _ s₂ _ => ?_
    refine Ends.bind (ends_writeFile.weaken fun _ _ => trivial) fun _ s₃ hcontent => ?_
    exact ends_pure ⟨"", hcontent, by decide⟩

theorem ends_loadSettings_of_stores {failed : State → Prop} (h : Stores w s stored) :
    (loadSettings w).Ends s (fun c s' => c = stored ∧ Filed w s' stored) failed where
  ok c s' hrun := by
    rw [Stores, hrun] at h
    obtain rfl := Except.ok.inj h
    exact ⟨rfl, ends_loadSettings.ok c s' hrun⟩
  error e s' hrun := by
    rw [Stores, hrun] at h
    cases h

/-- Settings are written as a whole, or the disk only has more on it than before. -/
theorem ends_saveSettings : (saveSettings w c).Ends s
    (fun _ s' => ∃ text, c.text? = some text ∧
      s'.disk.content? w.directory (Settings.configFile w.environment) = some text)
    (fun s' => s.disk.Within s'.disk) := by
  rw [saveSettings]
  refine ends_makeParent.bind fun _ s₁ hs₁ => ?_
  have hsame (s' : State) (h : s' = s₁) : s.disk.Within s'.disk := h ▸ hs₁
  refine Ends.bind (ends_orFail.weaken hsame) ?_
  rintro text _ ⟨htext, rfl⟩
  exact ends_writeFile.mono (fun _ _ h => ⟨text, htext, h⟩) hsame

theorem Filed.of_disk_eq (h : Filed w s c) (hdisk : s'.disk = s.disk) : Filed w s' c := by
  rwa [Filed, hdisk]

/-- The command stores the changed settings, or fails and leaves those that were stored. -/
theorem ends_runConfig (hs : Stores w s stored)
    (hback : ∀ c text, stored.change apiUrl timeout = .ok c → c.text? = some text → ofText? text = some c) :
    (runConfig w list apiUrl timeout).Ends s
      (fun _ s' => ∃ c, stored.change apiUrl timeout = .ok c ∧ Stores w s' c) (fun s' => Stores w s' stored) := by
  rw [runConfig]
  refine (ends_loadSettings_of_stores hs).bind ?_
  rintro _ s₁ ⟨rfl, hfiled⟩
  cases hchange : StoredSettings.change apiUrl timeout _ with
  | error cause =>
    -- Both changes are looked at before anything is written.
    exact Ends.bind (ends_throw hfiled.stores) fun _ _ h => False.elim h
  | ok c =>
    dsimp only
    rw [pure_bind]
    split
    · refine Ends.bind (ends_saveSettings.weaken fun _ hdisk => (hfiled.within hdisk).stores) ?_
      rintro _ s₂ ⟨text, htext, hcontent⟩
      have hc : Filed w s₂ c := ⟨text, hcontent, hback c text hchange htext⟩
      refine ends_say.bind fun _ s₃ hs₃ => ?_
      refine (ends_forM_say_if _).mono (fun _ s₄ hs₄ => ⟨c, rfl, ?_⟩) fun _ h => h
      exact (hc.of_disk_eq (hs₄.trans hs₃)).stores
    · -- Without a change nothing is written, and the settings with no change made are those that were loaded.
      rename_i hnone
      obtain ⟨rfl, rfl⟩ : apiUrl = none ∧ timeout = none := by simpa using hnone
      obtain rfl : _ = c := Except.ok.inj hchange
      refine (ends_forM_say_if _).mono (fun _ s₂ hs₂ => ⟨_, rfl, ?_⟩) fun _ h => h
      exact (hfiled.of_disk_eq hs₂).stores

/-- The command for the settings fails and leaves those that were stored, or stores what was given and nothing
else. What is in effect of an address that was given is what is stored of it, and is an address of the web without
a slash at its end, exactly if the address that was given is not hollow behind its scheme. -/
theorem config_stores (hs : Stores w s stored)
    (hback : ∀ c text, stored.change apiUrl timeout = .ok c → c.text? = some text → ofText? text = some c) :
    (runCommand w (.config list apiUrl timeout)).Ends s
      (fun _ s' => ∃ c, Stores w s' c ∧ Changed apiUrl timeout stored c ∧
        ∀ given, apiUrl = some given → IsWeb (trim given) ∧
          ∀ scheme ∈ schemes, ∀ rest, trim given = scheme ++ rest →
            ∀ env : Environment, env "NOQ_API_URL" = none → (Faithful c env ↔ ¬ Hollow rest))
      (fun s' => Stores w s' stored) := by
  refine (ends_runConfig hs hback).mono ?_ fun _ h => h
  rintro _ s' ⟨c, hchange, hc⟩
  obtain ⟨hchanged, haddress⟩ := change_eq_ok hchange
  refine ⟨c, hc, hchanged, fun given hgiven => ?_⟩
  obtain ⟨url, hurl, hstored⟩ := haddress given hgiven
  obtain ⟨hweb, rfl⟩ := address?_eq_ok_iff.1 hurl
  exact ⟨hweb, fun scheme hscheme rest hrest env henv => faithful_iff hscheme hrest hstored henv⟩

namespace Sample

def surroundings : Surroundings :=
  ⟨fun key => if key = "XDG_CONFIG_HOME" then some "/config" else none, [], fun _ => .refused⟩

def fresh : State := .before .empty none

def ending (apiUrl : Option String) (timeout : Option UInt64) : Except Failure Unit × State :=
  (runCommand surroundings (.config false apiUrl timeout)).run.run fresh

theorem stores_fresh : Stores surroundings fresh .empty := by
  rw [Stores]
  decide +kernel

theorem reads_back {c c' : StoredSettings} {text : String} (h : Except.ok c' = (.ok c : Except Refused StoredSettings))
    (htext : c.text? = some text) (hback : c'.text?.bind ofText? = some c') : ofText? text = some c := by
  obtain rfl := Except.ok.inj h
  rwa [htext] at hback

/-- An address with white space around it and a slash at its end, and a timeout: what is in effect is what is
stored. -/
theorem config_stores_https :
    (ending (some " https://noq.example.com/ ") (some 5)).1 = .ok () ∧
      ∃ c, Stores surroundings (ending (some " https://noq.example.com/ ") (some 5)).2 c ∧
        Changed (some " https://noq.example.com/ ") (some 5) .empty c ∧ Faithful c fun _ => none := by
  have hok : (ending (some " https://noq.example.com/ ") (some 5)).1 = .ok () := by decide +kernel
  have hchange : StoredSettings.empty.change (some " https://noq.example.com/ ") (some 5) =
      .ok ⟨some "https://noq.example.com", none, none, some 5, none⟩ := by decide +kernel
  obtain ⟨c, hc, hchanged, haddress⟩ := (config_stores stores_fresh fun c text h htext =>
    reads_back (hchange.symm.trans h) htext (by decide +kernel)).ok () _ (Prod.ext hok rfl)
  refine ⟨hok, c, hc, hchanged, ?_⟩
  exact ((haddress _ rfl).2 "https://" (by decide) "noq.example.com/" (by decide) _ rfl).2 (by decide)

/-- Of an address that is a scheme alone something is stored that is no address of the web. -/
theorem not_config_faithful :
    ¬ ∀ (w : Surroundings) (s : State) (stored : StoredSettings) (list : Bool) (apiUrl : Option String)
      (timeout : Option UInt64), Stores w s stored →
      (∀ c text, stored.change apiUrl timeout = .ok c → c.text? = some text → ofText? text = some c) →
      (runCommand w (.config list apiUrl timeout)).Ends s
        (fun _ s' => ∃ c, Stores w s' c ∧ Changed apiUrl timeout stored c ∧
          (apiUrl.isSome → ∀ env : Environment, env "NOQ_API_URL" = none → Faithful c env))
        (fun s' => Stores w s' stored) := by
  intro h
  have hchange : StoredSettings.empty.change (some "https://") none =
      .ok ⟨some "https:", none, none, none, none⟩ := by decide +kernel
  obtain ⟨c, hc, -, hfaithful⟩ := (h surroundings fresh .empty false (some "https://") none stores_fresh
    fun c text h htext => reads_back (hchange.symm.trans h) htext (by decide +kernel)).ok () _
      (Prod.ext (by decide +kernel) rfl)
  have hstored : Stores surroundings (ending (some "https://") none).2 ⟨some "https:", none, none, none, none⟩ := by
    rw [Stores]
    decide +kernel
  obtain rfl := Except.ok.inj (hstored.symm.trans hc)
  exact absurd (hfaithful rfl (fun _ => none) rfl).web (by decide)

end Sample

end ChangeDesk.Program
