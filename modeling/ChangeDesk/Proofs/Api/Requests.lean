import ChangeDesk.Api.Gateway
import ChangeDesk.Proofs.Json.Reading
import ChangeDesk.Proofs.Json.Record
import Mathlib

/-!
Requests on their way to the backend. The body of a call carries the request as a JSON text, and what is read
from that text is the request that was sent, with its configuration and its files.
-/
namespace ChangeDesk

namespace Json

/-- A natural number of 32 bits is an integer value. -/
theorem exists_ofNat_eq (n : UInt32) : ∃ h, ofNat n.toNat = .number (.integer n.toNat h) := by
  have hn := n.toNat_lt
  have hrange : -9223372036854775808 ≤ (n.toNat : Int) ∧ (n.toNat : Int) < 18446744073709551616 := by omega
  exact ⟨hrange, by rw [ofNat, ofInt, Number.ofInt?, dif_pos hrange]⟩

theorem sorted_ofOption (o : Option String) : (ofOption o).sorted = ofOption o := by cases o <;> rfl

theorem integral_ofOption (o : Option String) : (ofOption o).Integral := by cases o <;> trivial

theorem depth_ofOption (o : Option String) : (ofOption o).depth = 0 := by cases o <;> rfl

end Json

namespace ChangedFile

theorem integral_toJson (f : ChangedFile) : f.toJson.Integral := by
  obtain ⟨h, hn⟩ := Json.exists_ofNat_eq f.additions
  rw [toJson, hn]
  exact ⟨trivial, Json.integral_ofOption _, trivial, trivial, trivial, trivial⟩

theorem depth_toJson (f : ChangedFile) : f.toJson.depth = 1 := by
  obtain ⟨h, hn⟩ := Json.exists_ofNat_eq f.additions
  rw [toJson, hn]
  simp [Json.depth, Json.depthMembers, Json.depth_ofOption]

/-- A file is read from its value also if the members were sorted. -/
theorem read_sorted_toJson (f : ChangedFile) : record.read f.toJson.sorted = .ok f := by
  obtain ⟨h, hn⟩ := Json.exists_ofNat_eq f.additions
  rw [toJson, hn]
  simp only [Json.sorted, Json.sortedMembers, Json.sorted_ofOption]
  refine Json.Record.read_ofMembers ?_
  simp [record, Json.Fields.build, List.lookup, Json.Reader.text, Json.Reader.optional_ofOption,
    Json.Reader.word32_integer, bind, Except.bind]

end ChangedFile

namespace ChangeRequest

variable {r : ChangeRequest}

theorem integral_toJson (h : ∀ e ∈ r.fields.entries, e.2.Integral) : r.toJson.Integral := by
  have hfiles : Json.IntegralItems (r.files.map ChangedFile.toJson) := by
    simp [Json.integralItems_iff, ChangedFile.integral_toJson]
  exact ⟨trivial, trivial, Json.integralMembers_iff.2 h, trivial, hfiles, trivial⟩

/-- A request nests two deeper than the values of its configuration, and at least as deep as its files. -/
theorem depth_toJson_le {n : Nat} (hn : 1 ≤ n) (h : ∀ e ∈ r.fields.entries, e.2.depth ≤ n) :
    r.toJson.depth ≤ n + 2 := by
  have hfields : Json.depthMembers r.fields.entries ≤ n := Json.depthMembers_le_iff.2 h
  have hfiles : Json.depthItems (r.files.map ChangedFile.toJson) ≤ 1 := by
    simp [Json.depthItems_le_iff, ChangedFile.depth_toJson]
  simp only [toJson, Json.ofMap, Json.depth, Json.depthMembers]
  omega

/-- A request is read from its value also if the members were sorted. -/
theorem read_sorted_toJson (h : ∀ e ∈ r.fields.entries, e.2.Canonical) :
    record.read r.toJson.sorted = .ok r := by
  have hfields : (Json.ofMap r.fields).sorted = Json.ofMap r.fields :=
    Json.sorted_of_canonical _ ⟨r.fields.sorted, Json.canonicalMembers_iff.2 h⟩
  have hmap : Json.Reader.map (Json.ofMap r.fields) = .ok r.fields :=
    congrArg Except.ok r.fields.ofList_entries
  have hfiles : Json.Reader.list ChangedFile.record.read
      (.array (r.files.map (Json.sorted ∘ ChangedFile.toJson))) = .ok r.files :=
    Json.Reader.list_map fun f _ => f.read_sorted_toJson
  rw [toJson]
  simp only [Json.sorted, Json.sortedMembers, hfields, Json.sortedItems_eq_map, List.map_map]
  refine Json.Record.read_ofMembers ?_
  simp [record, Json.Fields.build, List.lookup, Json.Reader.text, hmap, hfiles, bind, Except.bind]

end ChangeRequest

namespace Gateway

def posting (g : Gateway) (body : String) (url : Http.Url) : Http.Request :=
  ⟨.post, url, g.headers ++ [("content-type", "application/json")], body⟩

theorem request_eq_posting {α : Type} (g : Gateway) {c : Call α} {body : Json} (h : c.body = some body) :
    g.request c = (g.url c).map (g.posting body.compact) := by
  rw [request]
  cases g.url c with
  | error e => rfl
  | ok url => simp only [h]; rfl

/-- Wherever a request can be sent, for a preview or for good, its body is a text from which the same request is
read, if the values of its configuration have integers only and nest at most 125 deep. -/
theorem posted_request (r : ChangeRequest)
    (h : ∀ e ∈ r.fields.entries, e.2.Canonical ∧ e.2.Integral ∧ e.2.depth ≤ 125) :
    ∃ body v, (∀ g : Gateway, g.request (.submit r) = (g.url (.submit r)).map (g.posting body) ∧
        g.request (.preview r) = (g.url (.preview r)).map (g.posting body)) ∧
      Json.parse? body = some v ∧ ChangeRequest.record.read v = .ok r := by
  have hdepth : r.toJson.depth ≤ Json.nestingLimit :=
    ChangeRequest.depth_toJson_le (by decide) fun e he => (h e he).2.2
  have hintegral : r.toJson.Integral := ChangeRequest.integral_toJson fun e he => (h e he).2.1
  refine ⟨r.toJson.compact, r.toJson.sorted,
    fun g => ⟨g.request_eq_posting rfl, g.request_eq_posting rfl⟩, ?_, ?_⟩
  · rw [Json.parse?_compact hintegral, if_pos hdepth]
  · exact ChangeRequest.read_sorted_toJson fun e he => (h e he).1

namespace Sample

/-- A value of the greatest depth that a configuration may have. -/
def deep : Json := Json.nest 123 (.object [("\"", .array [])])

theorem deep_spec : deep.Canonical ∧ deep.Integral ∧ deep.depth ≤ 125 := by
  refine ⟨Json.canonical_nest 123 ?_, Json.integral_nest 123 ?_, ?_⟩
  · exact ⟨List.pairwise_singleton _ _, trivial, trivial⟩
  · exact ⟨trivial, trivial⟩
  · rw [deep, Json.depth_nest]
    decide

def unusual : ChangeRequest :=
  ⟨"aws", "s3\x00\\", SortedMap.empty.insert "näme\x7f" deep, "so\r\n\t\x1b",
    [⟨"main.tf", none, "", "\u2028😀\"\x7b\x7d", 4294967295⟩, ⟨"", some "", "old\n", "", 0⟩]⟩

def nearby : Gateway := ⟨"http://localhost", [], 30⟩

end Sample

/-- It is sent to a backend nearby, and read there. -/
theorem posted_request_sample : ∃ sent v, Sample.nearby.request (.submit Sample.unusual) = .ok sent ∧
    Json.parse? sent.body = some v ∧ ChangeRequest.record.read v = .ok Sample.unusual := by
  obtain ⟨body, v, hposted, hparse, hread⟩ := posted_request Sample.unusual fun e he => by
    obtain rfl : e = ("näme\x7f", Sample.deep) := List.mem_singleton.1 he
    exact Sample.deep_spec
  have hsendable : (Sample.nearby.url (.submit Sample.unusual)).isOk = true := by cbv
  cases hurl : Sample.nearby.url (.submit Sample.unusual) with
  | error e => simp [hurl, Except.isOk, Except.toBool] at hsendable
  | ok url =>
    refine ⟨Sample.nearby.posting body url, v, ?_, hparse, hread⟩
    rw [(hposted Sample.nearby).1, hurl]
    rfl

end Gateway

end ChangeDesk
