import ChangeDesk.Model
import ChangeDesk.Proofs.Json.Record

/-!
The models that the backend and the desk exchange, each in its two forms. Which form a model has, and which form
each of the models inside of it has, makes no difference to what is read: the forms are read with success for the
same values, and as the same model.
-/
namespace ChangeDesk

open Json (Fields Form Reader Record)

inductive ModelKind where
  | integration
  | field
  | template
  | suggestion
  | file
  | request
  | receipt
deriving DecidableEq, Repr

namespace ModelKind

def Value : ModelKind → Type
  | integration => Integration
  | field => Field
  | template => Template
  | suggestion => Suggestion
  | file => ChangedFile
  | request => ChangeRequest
  | receipt => Receipt

def record : (k : ModelKind) → Record k.Value
  | integration => Integration.record
  | field => Field.record
  | template => Template.record
  | suggestion => Suggestion.record
  | file => ChangedFile.record
  | request => ChangeRequest.record
  | receipt => Receipt.record

def names (k : ModelKind) : List String := k.record.fields.names

/-- The models in the list that a field holds. -/
def within? : ModelKind → String → Option ModelKind
  | .template, "fields" => some .field
  | .request, "files" => some .file
  | _, _ => none

theorem nodup_names (k : ModelKind) : k.names.Nodup := by cases k <;> decide

mutual

/-- Two values that give the same model, each in a form of its own. -/
inductive Alike : ModelKind → Json → Json → Prop where
  | refl {k : ModelKind} (v : Json) : Alike k v v
  | forms {k : ModelKind} {values values' : List Json} {v w : Json}
      (h : AlikeValues k k.names values values') (hv : Form k.names values v)
      (hw : Form k.names values' w) : Alike k v w

/-- Values of the first fields of a model that are the same, but for the forms of the models in their lists. -/
inductive AlikeValues : ModelKind → List String → List Json → List Json → Prop where
  | nil {k : ModelKind} {names : List String} : AlikeValues k names [] []
  | same {k : ModelKind} {name : String} {names : List String} {values values' : List Json} (v : Json)
      (h : AlikeValues k names values values') : AlikeValues k (name :: names) (v :: values) (v :: values')
  | list {k inner : ModelKind} {name : String} {names : List String}
      {values values' items items' : List Json} (hk : k.within? name = some inner)
      (hitems : AlikeItems inner items items') (h : AlikeValues k names values values') :
      AlikeValues k (name :: names) (.array items :: values) (.array items' :: values')

inductive AlikeItems : ModelKind → List Json → List Json → Prop where
  | nil {k : ModelKind} : AlikeItems k [] []
  | cons {k : ModelKind} {v w : Json} {items items' : List Json} (h : Alike k v w)
      (hitems : AlikeItems k items items') : AlikeItems k (v :: items) (w :: items')

end

/-- Values are alike to themselves, if the model has fields for them. -/
theorem AlikeValues.refl {k : ModelKind} {names : List String} {values : List Json}
    (h : values.length ≤ names.length) : AlikeValues k names values values := by
  induction values generalizing names with
  | nil => exact .nil
  | cons v values ih =>
    cases names with
    | nil => cases h
    | cons name names => exact .same v (ih (Nat.le_of_succ_le_succ h))

theorem AlikeValues.length_le {k : ModelKind} {names : List String} {values values' : List Json}
    (h : AlikeValues k names values values') :
    values.length ≤ names.length ∧ values'.length ≤ names.length := by
  induction values generalizing names values' with
  | nil =>
    cases h
    exact ⟨Nat.zero_le _, Nat.zero_le _⟩
  | cons v values ih =>
    cases h with
    | same _ h | list _ _ h =>
      obtain ⟨hl, hr⟩ := ih h
      exact ⟨Nat.succ_le_succ hl, Nat.succ_le_succ hr⟩

/-- Every list of models among the fields is read by reading its items one by one. -/
def Lists {κ α : Type} (k : ModelKind) : Fields κ α → Prop
  | .done => True
  | .field name read _ rest =>
    (∀ inner, k.within? name = some inner → ∀ items items',
      (items.mapM inner.record.read).toOption = (items'.mapM inner.record.read).toOption →
        (read (.array items)).toOption = (read (.array items')).toOption) ∧ Lists k rest

theorem lists_fields (k : ModelKind) : Lists k k.record.fields := by
  cases k with
  | integration | suggestion | receipt => exact ⟨nofun, nofun, trivial⟩
  | field | file => exact ⟨nofun, nofun, nofun, nofun, nofun, trivial⟩
  | template =>
    refine ⟨nofun, nofun, nofun, fun inner hk items items' h => ?_, trivial⟩
    obtain rfl : .field = inner := Option.some.inj hk
    exact h
  | request =>
    refine ⟨nofun, nofun, nofun, nofun, fun inner hk items items' h => ?_, trivial⟩
    obtain rfl : .file = inner := Option.some.inj hk
    exact h

theorem toOption_eq_some {ε α : Type} {e : Except ε α} {x : α} : e.toOption = some x ↔ e = .ok x := by
  cases e <;> simp [Except.toOption]

theorem toOption_mapM_cons {α : Type} (read : Reader α) (v : Json) (items : List Json) :
    ((v :: items).mapM read).toOption =
      (read v).toOption.bind fun x => (items.mapM read).toOption.map (x :: ·) := by
  rw [List.mapM_cons]
  cases read v with
  | error mismatch => rfl
  | ok x => cases items.mapM read <;> rfl

mutual

/-- Alike values are read alike. -/
theorem Alike.toOption_read : ∀ {k : ModelKind} {v w : Json}, Alike k v w →
    (k.record.read v).toOption = (k.record.read w).toOption
  | _, _, _, .refl _ => rfl
  | k, _, _, .forms h hv hw => by
    rw [Record.toOption_read_form k.nodup_names h.length_le.1 hv,
      Record.toOption_read_form k.nodup_names h.length_le.2 hw]
    exact h.gather? rfl k.lists_fields k.record.make

theorem AlikeValues.gather? : ∀ {k : ModelKind} {names : List String} {values values' : List Json},
    AlikeValues k names values values' → ∀ {κ α : Type} {fields : Fields κ α}, fields.names = names →
      Lists k fields → ∀ make, fields.gather? values make = fields.gather? values' make
  | _, _, _, _, .nil, _, _, _, _, _, _ => rfl
  | _, _, _, _, .same v h, _, _, .field name read default rest, hn, hl, make => by
    obtain ⟨-, hrest⟩ := List.cons.inj hn
    rw [Fields.gather?, Fields.gather?]
    exact Option.bind_congr fun b _ => h.gather? hrest hl.2 (make b)
  | _, _, _, _, .list hk hitems h, _, _, .field name read default rest, hn, hl, make => by
    obtain ⟨hname, hrest⟩ := List.cons.inj hn
    subst hname
    rw [Fields.gather?, Fields.gather?, hl.1 _ hk _ _ hitems.toOption_mapM]
    exact Option.bind_congr fun b _ => h.gather? hrest hl.2 (make b)

theorem AlikeItems.toOption_mapM : ∀ {k : ModelKind} {items items' : List Json}, AlikeItems k items items' →
    (items.mapM k.record.read).toOption = (items'.mapM k.record.read).toOption
  | _, _, _, .nil => rfl
  | _, _, _, .cons h hitems => by
    rw [toOption_mapM_cons, toOption_mapM_cons, h.toOption_read, hitems.toOption_mapM]

end

/-- A model is read with success from the array of the values of its first fields exactly if it is from an object
that has these as the members of its fields, whatever else it has; and if the values hold models themselves, each
of these may be in either form, here and there. -/
theorem read_in_either_form (k : ModelKind) (x : k.Value) :
    (∀ (values : List Json) (m : SortedMap Json), values.length ≤ k.names.length →
      Fields.Gives k.names values m.get? →
        (k.record.read (.array values) = .ok x ↔ k.record.read (Json.ofMap m) = .ok x)) ∧
    ∀ v w, Alike k v w → (k.record.read v = .ok x ↔ k.record.read w = .ok x) := by
  have halike (v w : Json) (h : Alike k v w) : k.record.read v = .ok x ↔ k.record.read w = .ok x := by
    rw [← toOption_eq_some, ← toOption_eq_some, h.toOption_read]
  exact ⟨fun values m hlength h => halike _ _ (.forms (.refl hlength) .array (.object h)), halike⟩

namespace Sample

/-- Values for all but the last of the fields of a field. -/
def bucket : List Json := [.string "bucket", .null, .string "", .bool true]

def bucketMembers : SortedMap Json :=
  ⟨[("description", .string ""), ("label", .null), ("name", .string "bucket"), ("required", .bool true)],
    by decide⟩

/-- A field with its name only, beside a member of another name. -/
def regionMembers : SortedMap Json := ⟨[("name", .string "region"), ("zone", .bool true)], by decide⟩

def items : List Json := [.array bucket, Json.ofMap regionMembers]

def otherItems : List Json := [Json.ofMap bucketMembers, .array [.string "region"]]

def values (items : List Json) : List Json := [.string "s3", .string "aws", .null, .array items]

def templateMembers : SortedMap Json :=
  ⟨[("fields", .array otherItems), ("name", .null), ("owner", .array []), ("provider", .string "aws"),
    ("template_id", .string "s3")], by decide⟩

theorem gives_bucketMembers : Fields.Gives field.names bucket bucketMembers.get? := by
  simp only [Fields.Gives, names, record, Field.record, Fields.names, List.forall_mem_cons]
  exact ⟨rfl, rfl, rfl, rfl, rfl, List.forall_mem_nil _⟩

theorem gives_regionMembers : Fields.Gives field.names [.string "region"] regionMembers.get? := by
  simp only [Fields.Gives, names, record, Field.record, Fields.names, List.forall_mem_cons]
  exact ⟨rfl, rfl, rfl, rfl, rfl, List.forall_mem_nil _⟩

theorem gives_templateMembers : Fields.Gives template.names (values otherItems) templateMembers.get? := by
  simp only [Fields.Gives, names, record, Template.record, Fields.names, List.forall_mem_cons]
  exact ⟨rfl, rfl, rfl, rfl, List.forall_mem_nil _⟩

theorem alike_template : Alike .template (.array (values items)) (Json.ofMap templateMembers) := by
  have hbucket : Alike .field (.array bucket) (Json.ofMap bucketMembers) :=
    .forms (.refl (by decide)) .array (.object gives_bucketMembers)
  have hregion : Alike .field (Json.ofMap regionMembers) (.array [.string "region"]) :=
    .forms (.refl (by decide)) (.object gives_regionMembers) .array
  have hitems : AlikeItems .field items otherItems := .cons hbucket (.cons hregion .nil)
  exact .forms (.same _ (.same _ (.same _ (.list rfl hitems .nil)))) .array (.object gives_templateMembers)

def shown : Template :=
  ⟨"s3", "aws", none, [⟨"bucket", none, some "", true, false⟩, ⟨"region", none, none, false, false⟩]⟩

end Sample

theorem read_in_either_form_sample :
    (Sample.bucket.length ≤ field.names.length ∧
      Fields.Gives field.names Sample.bucket Sample.bucketMembers.get? ∧
      field.record.read (Json.ofMap Sample.bucketMembers) = .ok (⟨"bucket", none, some "", true, false⟩ : Field)) ∧
    Alike .template (.array (Sample.values Sample.items)) (Json.ofMap Sample.templateMembers) ∧
      template.record.read (Json.ofMap Sample.templateMembers) = .ok Sample.shown := by
  have hlength : Sample.bucket.length ≤ field.names.length := by decide
  have hfield := ((read_in_either_form field _).1 _ _ hlength Sample.gives_bucketMembers).1 rfl
  have htemplate := ((read_in_either_form template Sample.shown).2 _ _ Sample.alike_template).1 rfl
  exact ⟨⟨hlength, Sample.gives_bucketMembers, hfield⟩, Sample.alike_template, htemplate⟩

end ModelKind

end ChangeDesk
