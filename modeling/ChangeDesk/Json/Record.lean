import ChangeDesk.Json.Basic
import ChangeDesk.Text.Cluster

/-!
Reading typed values out of JSON values. A record is given either as an object, whose unknown members are
ignored, or as the array of its fields in order. One list of fields serves both forms: each field has a
name, a reader and perhaps a default. An object's members are read in the order of their keys before a
missing field is reported; an array may stop early where only fields with a default follow.
-/
namespace ChangeDesk.Json

inductive Mismatch where
  | wrongType (found : Json) (expected : String)
  | outOfRange (found : Int) (expected : String)
  | missingField (name : String)
  | tooFewItems (firstMissing : Nat) (record : String) (fields : Nat)
  | tooManyItems (count : Nat)

/-- How a message names a value. -/
def describe : Json → String
  | .null => "null"
  | .bool true => "boolean `true`"
  | .bool false => "boolean `false`"
  | .number (.integer n _) => "integer `" ++ String.ofList (integerChars n) ++ "`"
  | .number (.float x) => "floating point `" ++ String.ofList x.chars ++ "`"
  | .string s => "string " ++ Text.quoted s
  | .array _ => "sequence"
  | .object _ => "map"

def countText (n : Nat) : String := String.ofList (decimalDigits n)

def Mismatch.message : Mismatch → String
  | .wrongType found expected => "invalid type: " ++ found.describe ++ ", expected " ++ expected
  | .outOfRange found expected =>
    "invalid value: integer `" ++ String.ofList (integerChars found) ++ "`, expected " ++ expected
  | .missingField name => "missing field `" ++ name ++ "`"
  | .tooFewItems firstMissing record fields =>
    "invalid length " ++ countText firstMissing ++ ", expected struct " ++ record ++ " with " ++
      countText fields ++ (if fields = 1 then " element" else " elements")
  | .tooManyItems count =>
    "invalid length " ++ countText count ++ ", expected fewer elements in array"

abbrev Reader (α : Type) := Json → Except Mismatch α

namespace Reader

def text : Reader String
  | .string s => .ok s
  | v => .error (.wrongType v "a string")

def flag : Reader Bool
  | .bool b => .ok b
  | v => .error (.wrongType v "a boolean")

/-- An integer from `low` to `high`, called `name` in messages. -/
def integer (low high : Int) (name : String) : Reader Int
  | .number (.integer n _) =>
    if low ≤ n ∧ n ≤ high then .ok n else .error (.outOfRange n name)
  | v => .error (.wrongType v name)

def word32 : Reader UInt32 := fun v => (integer 0 4294967295 "u32" v).map (fun n => UInt32.ofNat n.toNat)

def word64 : Reader UInt64 := fun v => (integer 0 18446744073709551615 "u64" v).map (fun n => UInt64.ofNat n.toNat)

/-- Reads `null` as nothing. -/
def optional {α : Type} (read : Reader α) : Reader (Option α)
  | .null => .ok none
  | v => (read v).map some

def list {α : Type} (read : Reader α) : Reader (List α)
  | .array items => items.mapM read
  | v => .error (.wrongType v "a sequence")

def map : Reader (SortedMap Json)
  | .object members => .ok (SortedMap.ofList members)
  | v => .error (.wrongType v "a map")

end Reader

/-- The fields of a record in declaration order: a constructor of type `κ` takes them one by one and
yields an `α`. -/
inductive Fields : Type → Type → Type 1 where
  | done {α : Type} : Fields α α
  | field {β κ α : Type} (name : String) (read : Reader β) (default : Option β) (rest : Fields κ α) :
      Fields (β → κ) α

namespace Fields

def count {κ α : Type} : Fields κ α → Nat
  | .done => 0
  | .field _ _ _ rest => rest.count + 1

def names {κ α : Type} : Fields κ α → List String
  | .done => []
  | .field name _ _ rest => name :: rest.names

/-- Reads a member with the reader of the field of its name; other members pass. -/
def checkMember {κ α : Type} (key : String) (v : Json) : Fields κ α → Except Mismatch Unit
  | .done => .ok ()
  | .field name read _ rest =>
    if name = key then (read v).map (fun _ => ()) else rest.checkMember key v

/-- Builds the record from its members; a field without member takes its default. -/
def build {κ α : Type} (member? : String → Option Json) : Fields κ α → κ → Except Mismatch α
  | .done, record => .ok record
  | .field name read default rest, make =>
    match member? name, default with
    | some v, _ => do rest.build member? (make (← read v))
    | none, some b => rest.build member? (make b)
    | none, none => .error (.missingField name)

/-- Builds the record from items in field order. `index` is the position of the first field here and
`total` the length of the array. -/
def buildItems {κ α : Type} (record : String) (fields total : Nat) :
    Nat → List Json → Fields κ α → κ → Except Mismatch α
  | _, [], .done, made => .ok made
  | _, _ :: _, .done, _ => .error (.tooManyItems total)
  | index, v :: items, .field _ read _ rest, make => do
    rest.buildItems record fields total (index + 1) items (make (← read v))
  | index, [], .field _ _ (some b) rest, make =>
    rest.buildItems record fields total (index + 1) [] (make b)
  | index, [], .field _ _ none _, _ => .error (.tooFewItems index record fields)

end Fields

/-- A record's name in messages, its constructor and its fields. -/
structure Record (α : Type) where
  name : String
  Make : Type
  fields : Fields Make α
  make : Make

namespace Record

def readMembers {α : Type} (r : Record α) (members : List (String × Json)) : Except Mismatch α := do
  members.forM (fun (key, v) => r.fields.checkMember key v)
  r.fields.build (fun name => members.lookup name) r.make

def readItems {α : Type} (r : Record α) (items : List Json) : Except Mismatch α :=
  r.fields.buildItems r.name r.fields.count items.length 0 items r.make

/-- Reads either form. -/
def read {α : Type} (r : Record α) : Reader α
  | .object members => r.readMembers members
  | .array items => r.readItems items
  | v => .error (.wrongType v ("struct " ++ r.name))

end Record

end ChangeDesk.Json
