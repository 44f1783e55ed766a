import ChangeDesk.Api.Gateway
import ChangeDesk.Proofs.Http.Url

/-!
The parameters of the calls that only ask. A request carries them at the end of its query, from which they are
read back as they were, so nothing in a value passes for another parameter.
-/
namespace ChangeDesk

/-- The query that a request asks with: what stands behind the first question mark of its target. -/
def Http.Request.query? (r : Http.Request) : Option String :=
  (Text.splitFirst? '?' r.url.target.toList).map fun parts => String.ofList parts.2

namespace Gateway

open Http (Request Url Form.encode Form.decode)

variable {α κ : Type} {g g' : Gateway} {c c' : Call α} {r r' : Request}

/-- The pairs that the address of a gateway puts before the parameters of a call. -/
def ownPairs (g : Gateway) (c : Call α) : List (String × String) :=
  ((Url.parse? (g.address ++ commonPath ++ c.path)).map Url.pairs).getD []

/-- Calls of one kind keep the pairs apart that they are given as parameters. -/
structure KeepsApart (g : Gateway) (call : κ → Call α) (given : κ → List (String × String)) : Prop where
  /-- The query is read as the given pairs in their order, behind those of the address. -/
  read_back : ∀ k r, g.request (call k) = .ok r →
    ∃ query, r.query? = some query ∧ Form.decode query = g.ownPairs (call k) ++ given k
  /-- An address without a question mark has no pairs for itself. -/
  nothing_else : '?' ∉ g.address.toList → ∀ k, g.ownPairs (call k) = []
  /-- The same query is never sent for two of them, through whichever gateway. -/
  injective : ∀ (g' : Gateway) k k' r r', g.request (call k) = .ok r → g'.request (call k') = .ok r' →
    r.query? = r'.query? → k = k'
  /-- No pairs are refused for anything but their size. -/
  sent : ∀ k k' r, g.request (call k) = .ok r →
    (Form.encode (given k')).utf8ByteSize ≤ (Form.encode (given k)).utf8ByteSize →
    ∃ r', g.request (call k') = .ok r'

/-! ## One call -/

theorem ownPairs_eq_nil (hg : '?' ∉ g.address.toList) (hc : '?' ∉ c.path.toList) :
    g.ownPairs c = [] := by
  have hplace : '?' ∉ (g.address ++ commonPath ++ c.path).toList := by
    simp [commonPath, hg, hc]
  rw [ownPairs]
  cases hparse : Url.parse? (g.address ++ commonPath ++ c.path) with
  | none => rfl
  | some u =>
    rw [Option.map_some, Option.getD_some, Url.pairs, Url.query_of_parse? hparse hplace]
    rfl

def asking (g : Gateway) (url : Url) : Request := ⟨.get, url, g.headers, ""⟩

theorem request_eq_asking (g : Gateway) (h : c.body = none) :
    g.request c = (g.url c).map g.asking := by
  rw [request]
  cases g.url c with
  | error e => rfl
  | ok url => simp only [h]; rfl

/-- A call that only asks is sent exactly if its address can be asked for with the parameters. -/
theorem request_eq_ok (hbody : c.body = none) : g.request c = .ok r ↔
    ∃ u, Url.parse? (g.address ++ commonPath ++ c.path) = some u ∧ u.hasHost = true ∧
      (u.withPairs c.parameters).isSendable = true ∧ r = g.asking (u.withPairs c.parameters) := by
  rw [request_eq_asking g hbody, Gateway.url, hbody]
  cases Url.parse? (g.address ++ commonPath ++ c.path) with
  | none => simp [Except.map]
  | some u =>
    cases hhost : u.hasHost with
    | false => simp [Except.map, hhost]
    | true =>
      cases hsend : (u.withPairs c.parameters).isSendable with
      | false => simp [Except.map, hhost, hsend]
      | true =>
        have hsame : (.ok (g.asking (u.withPairs c.parameters)) : Except ApiError Request) = .ok r ↔
            r = g.asking (u.withPairs c.parameters) :=
          ⟨fun h => (Except.ok.inj h).symm, fun h => congrArg Except.ok h.symm⟩
        simpa [Except.map, hhost, hsend] using hsame

/-- A request that only asks sends the parameters of its call behind the pairs of the address. -/
theorem query_of_request (hbody : c.body = none) (hparameters : c.parameters ≠ [])
    (h : g.request c = .ok r) :
    ∃ query, r.query? = some query ∧ Form.decode query = g.ownPairs c ++ c.parameters := by
  obtain ⟨u, hparse, -, hsend, rfl⟩ := (request_eq_ok hbody).1 h
  have hquery := u.query_withPairs hparameters
  have hscheme : u.scheme = "http" ∨ u.scheme = "https" :=
    Url.scheme_of_isSendable (u := u.withPairs c.parameters) hsend
  have htarget : (u.withPairs c.parameters).target.toList =
      u.path.toList ++ '?' :: (u.ownQuery ++ Form.encode c.parameters).toList := by
    rw [Url.target, hquery]
    simp [Url.behind, Url.withPairs]
  refine ⟨u.ownQuery ++ Form.encode c.parameters, ?_, ?_⟩
  · rw [Request.query?, asking, htarget, Text.splitFirst?_append (Url.not_mem_path hparse hscheme),
      Option.map_some, String.ofList_toList]
  · rw [u.decode_ownQuery_append, ownPairs, hparse]
    rfl

/-- Two requests that only ask and carry the same query carry the same parameters, if equally many. -/
theorem parameters_eq_of_query_eq (hbody : c.body = none) (hbody' : c'.body = none)
    (hparameters : c.parameters ≠ []) (hlength : c.parameters.length = c'.parameters.length)
    (h : g.request c = .ok r) (h' : g'.request c' = .ok r') (hquery : r.query? = r'.query?) :
    c.parameters = c'.parameters := by
  have hparameters' : c'.parameters ≠ [] := by
    rw [← List.length_pos_iff] at hparameters ⊢
    omega
  obtain ⟨query, hq, hdecode⟩ := query_of_request hbody hparameters h
  obtain ⟨query', hq', hdecode'⟩ := query_of_request hbody' hparameters' h'
  obtain rfl : query = query' := Option.some.inj (hq.symm.trans (hquery.trans hq'))
  exact List.append_inj_right' (hdecode.symm.trans hdecode') hlength

/-- A call is sent if another one of the same place is that takes at least as much room. -/
theorem exists_request (hbody : c.body = none) (hbody' : c'.body = none) (hpath : c.path = c'.path)
    (hparameters : c.parameters ≠ []) (hparameters' : c'.parameters ≠ [])
    (hsize : (Form.encode c'.parameters).utf8ByteSize ≤ (Form.encode c.parameters).utf8ByteSize)
    (h : g.request c = .ok r) : ∃ r', g.request c' = .ok r' := by
  obtain ⟨u, hparse, hhost, hsend, -⟩ := (request_eq_ok hbody).1 h
  have hsend' := Url.isSendable_withPairs hparameters hparameters' hsize hsend
  rw [hpath] at hparse
  exact ⟨_, (request_eq_ok hbody').2 ⟨u, hparse, hhost, hsend', rfl⟩⟩

/-! ## Calls of one kind -/

/-- Calls that only ask at one place keep their parameters apart, if these are always equally many and say for
which call they are. -/
theorem keepsApart_parameters {call : κ → Call α} {path : String} {n : Nat}
    (hbody : ∀ k, (call k).body = none) (hpath : ∀ k, (call k).path = path) (hmark : '?' ∉ path.toList)
    (hlength : ∀ k, (call k).parameters.length = n + 1)
    (hinjective : ∀ k k', (call k).parameters = (call k').parameters → k = k') :
    g.KeepsApart call fun k => (call k).parameters := by
  have hparameters (k : κ) : (call k).parameters ≠ [] := by
    rw [← List.length_pos_iff, hlength]
    exact Nat.succ_pos n
  refine ⟨fun k r h => ?_, fun hg k => ?_, fun g' k k' r r' h h' hquery => ?_, fun k k' r h hsize => ?_⟩
  · exact query_of_request (hbody k) (hparameters k) h
  · exact ownPairs_eq_nil hg ((hpath k).symm ▸ hmark)
  · have hsame : (call k).parameters.length = (call k').parameters.length := by rw [hlength, hlength]
    exact hinjective k k' (parameters_eq_of_query_eq (hbody k) (hbody k') (hparameters k) hsame h h' hquery)
  · exact exists_request (hbody k) (hbody k') ((hpath k).trans (hpath k').symm) (hparameters k)
      (hparameters k') hsize h

theorem queryPairs_inj {q q' : Query} (h : Call.queryPairs q = Call.queryPairs q') : q = q' := by
  obtain ⟨provider, templateId, field, start⟩ := q
  obtain ⟨provider', templateId', field', start'⟩ := q'
  simpa [Call.queryPairs] using h

theorem integration_eq_of_parameters {s s' : Integration}
    (h : (Call.definition s).parameters = (Call.definition s').parameters) : s = s' := by
  obtain ⟨provider, subType⟩ := s
  obtain ⟨provider', subType'⟩ := s'
  simpa [Call.definition] using h

/-- Lookups keep the integration, the field and the start of its value apart, and requests for a template the
two parts of the integration. -/
theorem parameters_read_back (g : Gateway) :
    g.KeepsApart Call.typeahead (fun q =>
      [("provider", q.provider), ("template_id", q.templateId), ("field", q.field),
        ("prefix", q.start)]) ∧
    g.KeepsApart Call.definition (fun s =>
      [("provider", s.provider), ("template_id", s.subType)]) := by
  constructor
  · have hmark : '?' ∉ "/self-service/typeahead".toList := by simp
    exact keepsApart_parameters (n := 3) (fun _ => rfl) (fun _ => rfl) hmark (fun _ => rfl)
      fun q q' h => queryPairs_inj h
  · have hmark : '?' ∉ "/providers/definitions".toList := by simp
    exact keepsApart_parameters (n := 1) (fun _ => rfl) (fun _ => rfl) hmark (fun _ => rfl)
      fun s s' h => integration_eq_of_parameters h

/-- A lookup with every sign that has a meaning in a query is sent to a backend nearby and read there. -/
theorem parameters_read_back_sample :
    let g : Gateway := ⟨"http://localhost", [], 30⟩
    let q : Query := ⟨"aws&field=x", "s3+%26 #", "", "🪣 ä=?"⟩
    ∃ r query, g.request (.typeahead q) = .ok r ∧ r.query? = some query ∧
      Form.decode query =
        [("provider", "aws&field=x"), ("template_id", "s3+%26 #"), ("field", ""), ("prefix", "🪣 ä=?")] := by
  intro g q
  have hsent : (g.request (.typeahead q)).isOk = true := by cbv
  cases hrequest : g.request (.typeahead q) with
  | error e => simp [hrequest, Except.isOk, Except.toBool] at hsent
  | ok r =>
    obtain ⟨hread, hnothing, -, -⟩ := (parameters_read_back g).1
    obtain ⟨query, hquery, hdecode⟩ := hread q r hrequest
    rw [hnothing (by simp [g]) q] at hdecode
    exact ⟨r, query, rfl, hquery, hdecode⟩

end Gateway

end ChangeDesk
