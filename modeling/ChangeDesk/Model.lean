import ChangeDesk.Json.Record

/-!
What the desk and the backend talk about: integrations, templates and their fields, changed files and the
requests made of them. Each has a record for reading it and a value for writing it; writing lists the
fields in declaration order and an absent option as `null`.
-/
namespace ChangeDesk

open Json (Record Reader Fields)

/-- A configured provider and a resource type under it. -/
structure Integration where
  provider : String
  subType : String
deriving DecidableEq, Repr

/-- One input that a template asks for. -/
structure Field where
  name : String
  label : Option String
  description : Option String
  required : Bool
  /-- Whether the backend completes prefixes of the value. -/
  completes : Bool
deriving DecidableEq, Repr

structure Template where
  templateId : String
  provider : String
  name : Option String
  fields : List Field
deriving DecidableEq, Repr

structure Suggestion where
  label : String
  value : String
deriving DecidableEq, Repr

structure ChangedFile where
  path : String
  repository : Option String
  previousBody : String
  body : String
  /-- The number of lines that the body adds to the previous one. -/
  additions : UInt32
deriving DecidableEq, Repr

/-- A request for changes, as sent for a preview or for good. -/
structure ChangeRequest where
  provider : String
  subType : String
  fields : SortedMap Json
  justification : String
  files : List ChangedFile

structure Receipt where
  requestId : String
  requestUrl : Option String
deriving DecidableEq, Repr

namespace Integration

def record : Record Integration :=
  ⟨"ProviderSelection", _,
    .field "provider" Reader.text none <| .field "sub_type" Reader.text (some "") .done,
    Integration.mk⟩

def toJson (s : Integration) : Json :=
  .object [("provider", .string s.provider), ("sub_type", .string s.subType)]

def title (s : Integration) : String := s.provider ++ "/" ++ s.subType

end Integration

namespace Field

def record : Record Field :=
  ⟨"FieldSpec", _,
    .field "name" Reader.text none <| .field "label" (Reader.optional Reader.text) (some none) <|
    .field "description" (Reader.optional Reader.text) (some none) <|
    .field "required" Reader.flag (some false) <| .field "typeahead" Reader.flag (some false) .done,
    Field.mk⟩

def toJson (f : Field) : Json :=
  .object [("name", .string f.name), ("label", Json.ofOption f.label),
    ("description", Json.ofOption f.description), ("required", .bool f.required),
    ("typeahead", .bool f.completes)]

def shownName (f : Field) : String := f.label.getD f.name

end Field

namespace Template

def record : Record Template :=
  ⟨"TemplateDefinition", _,
    .field "template_id" Reader.text none <| .field "provider" Reader.text none <|
    .field "name" (Reader.optional Reader.text) (some none) <|
    .field "fields" (Reader.list Field.record.read) (some []) .done,
    Template.mk⟩

def toJson (t : Template) : Json :=
  .object [("template_id", .string t.templateId), ("provider", .string t.provider),
    ("name", Json.ofOption t.name), ("fields", .array (t.fields.map Field.toJson))]

end Template

namespace Suggestion

def record : Record Suggestion :=
  ⟨"TypeaheadHit", _, .field "label" Reader.text none <| .field "value" Reader.text none .done,
    Suggestion.mk⟩

def toJson (s : Suggestion) : Json :=
  .object [("label", .string s.label), ("value", .string s.value)]

end Suggestion

namespace ChangedFile

def record : Record ChangedFile :=
  ⟨"RequestFile", _,
    .field "file_path" Reader.text none <|
    .field "repo_name" (Reader.optional Reader.text) (some none) <|
    .field "previous_body" Reader.text (some "") <| .field "template_body" Reader.text none <|
    .field "additions" Reader.word32 (some 0) .done,
    ChangedFile.mk⟩

def toJson (f : ChangedFile) : Json :=
  .object [("file_path", .string f.path), ("repo_name", Json.ofOption f.repository),
    ("previous_body", .string f.previousBody), ("template_body", .string f.body),
    ("additions", Json.ofNat f.additions.toNat)]

/-- The components of a path that name something: empty ones and those of one dot are skipped. -/
def components (path : String) : List String :=
  (path.splitOn "/").filter (fun c => c ≠ "" ∧ c ≠ ".")

/-- The part of a file name behind its last dot. A dot at the start of the name does not count. -/
def nameExtension (name : String) : String :=
  if name = ".." then "" else
    match name.toList.reverse.span (· ≠ '.') with
    | (_, []) => ""
    | (_, [_]) => ""
    | (ext, _) => String.ofList ext.reverse

def fileExtension (f : ChangedFile) : String :=
  match (components f.path).getLast? with
  | some name => nameExtension name
  | none => ""

/-- Repository and path around a slash, for a file that belongs to a repository. -/
def sourceLink (f : ChangedFile) : Option String :=
  f.repository.map (fun repo => repo ++ "/" ++ f.path)

end ChangedFile

namespace ChangeRequest

def record : Record ChangeRequest :=
  ⟨"SelfServiceRequest", _,
    .field "provider" Reader.text none <| .field "sub_type" Reader.text none <|
    .field "fields" Reader.map none <| .field "justification" Reader.text none <|
    .field "files" (Reader.list ChangedFile.record.read) none .done,
    ChangeRequest.mk⟩

def toJson (r : ChangeRequest) : Json :=
  .object [("provider", .string r.provider), ("sub_type", .string r.subType),
    ("fields", Json.ofMap r.fields), ("justification", .string r.justification),
    ("files", .array (r.files.map ChangedFile.toJson))]

end ChangeRequest

namespace Receipt

def record : Record Receipt :=
  ⟨"SubmitReceipt", _,
    .field "request_id" Reader.text none <|
    .field "request_url" (Reader.optional Reader.text) (some none) .done,
    Receipt.mk⟩

def toJson (r : Receipt) : Json :=
  .object [("request_id", .string r.requestId), ("request_url", Json.ofOption r.requestUrl)]

end Receipt

end ChangeDesk
