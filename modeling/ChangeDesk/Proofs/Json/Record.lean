import ChangeDesk.Json.Record
import ChangeDesk.Proofs.SortedMap

/-!
Reading typed values back, from either of their forms. The members of an object are read twice, first each one
in the order of the keys and then those that the record has, in the order of its fields. The first reading
fails only where the second one does, so that it is enough to look at the fields.
-/
namespace ChangeDesk.Json

variable {α κ : Type}

/-- A member that a record is built from is read without an error. -/
theorem Fields.checkMember_of_build {fields : Fields κ α} {member? : String → Option Json} {make : κ}
    {x : α} (h : fields.build member? make = .ok x) {key : String} {v : Json} (hv : member? key = some v) :
    fields.checkMember key v = .ok () := by
  induction fields with
  | done => rfl
  | field name read default rest ih =>
    rw [checkMember]
    by_cases hname : name = key
    · subst hname
      simp only [build, hv] at h
      cases hread : read v with
      | error mismatch =>
        rw [hread] at h
        cases h
      | ok b => simp [Except.map]
    · rw [if_neg hname]
      cases hmember : member? name with
      | none =>
        simp only [build, hmember] at h
        cases default with
        | none => cases h
        | some b => exact ih h
      | some w =>
        simp only [build, hmember] at h
        cases hread : read w with
        | error mismatch =>
          rw [hread] at h
          cases h
        | ok b =>
          rw [hread] at h
          exact ih h

theorem forM_ok {ε : Type} {l : List α} {check : α → Except ε Unit} (h : ∀ a ∈ l, check a = .ok ()) :
    l.forM check = .ok () := by
  induction l with
  | nil => rfl
  | cons a rest ih =>
    obtain ⟨ha, hrest⟩ := List.forall_mem_cons.1 h
    rw [List.forM_eq_forM, List.forM_cons, ha]
    exact ih hrest

/-- An object is read as a record if its fields, the last member of each name, make up the record. -/
theorem Record.read_ofMembers {r : Record α} {members : List (String × Json)} {x : α}
    (h : r.fields.build (fun name => members.reverse.lookup name) r.make = .ok x) :
    r.read (ofMembers members) = .ok x := by
  have hget : (fun name => (SortedMap.ofList members).entries.lookup name) =
      fun name => members.reverse.lookup name := funext (SortedMap.get?_ofList members)
  have hcheck (e : String × Json) (he : e ∈ (SortedMap.ofList members).entries) :
      r.fields.checkMember e.1 e.2 = .ok () :=
    Fields.checkMember_of_build h (by rw [← SortedMap.get?_ofList]; exact (SortedMap.mem_entries_iff _).1 he)
  rw [ofMembers, ofMap, Record.read, readMembers, forM_ok hcheck, hget]
  exact h

namespace Reader

theorem word32_integer (n : UInt32) {h : -9223372036854775808 ≤ (n.toNat : Int) ∧
    (n.toNat : Int) < 18446744073709551616} : word32 (.number (.integer n.toNat h)) = .ok n := by
  have hn := n.toNat_lt
  have hle : 0 ≤ (n.toNat : Int) ∧ (n.toNat : Int) ≤ 4294967295 := by omega
  simp [word32, integer, hle, Except.map]

theorem optional_ofOption (o : Option String) : optional text (ofOption o) = .ok o := by
  cases o <;> rfl

/-- A list is read if each of its items is. -/
theorem list_map {read : Reader α} {write : α → Json} {xs : List α}
    (h : ∀ x ∈ xs, read (write x) = .ok x) : list read (.array (xs.map write)) = .ok xs := by
  rw [list]
  induction xs with
  | nil => rfl
  | cons x rest ih =>
    obtain ⟨hx, hrest⟩ := List.forall_mem_cons.1 h
    rw [List.map_cons, List.mapM_cons, hx, ih hrest]
    rfl

end Reader

end ChangeDesk.Json

/-!
## Forms

The two forms of a record. An array and an object that give the same values to the first fields are read in
different ways: the array by position until it stops, the object by looking every field up after all of its
members were checked. Both amount to gathering the values in the order of the fields and the defaults behind
them, and they fail on the same values.
-/

namespace ChangeDesk.Json

variable {α κ : Type} {names : List String} {values : List Json}

namespace Fields

/-- What values make of the first fields, with the defaults of those behind them. -/
def gather? {κ α : Type} : Fields κ α → List Json → κ → Option α
  | .done, [], made => some made
  | .done, _ :: _, _ => none
  | .field _ read _ rest, v :: values, make => (read v).toOption.bind fun b => rest.gather? values (make b)
  | .field _ _ default rest, [], make => default.bind fun b => rest.gather? [] (make b)

/-- Items in field order make what they gather. -/
theorem toOption_buildItems (record : String) (fields total index : Nat) (fs : Fields κ α)
    (values : List Json) (make : κ) :
    (fs.buildItems record fields total index values make).toOption = fs.gather? values make := by
  induction fs generalizing index values with
  | done => cases values <;> rfl
  | field name read default rest ih =>
    cases values with
    | nil =>
      cases default with
      | none => rfl
      | some b => exact ih (index + 1) [] (make b)
    | cons v values =>
      rw [buildItems, gather?]
      cases read v with
      | error mismatch => rfl
      | ok b => exact ih (index + 1) values (make b)

/-- The value of each field that is among the first ones; the others have none. -/
def Gives (names : List String) (values : List Json) (member? : String → Option Json) : Prop :=
  ∀ name ∈ names, member? name = (names.zip values).lookup name

theorem Gives.tail {name : String} {member? : String → Option Json}
    (h : Gives (name :: names) values member?) (hn : name ∉ names) : Gives names values.tail member? := by
  intro other hother
  rw [h other (List.mem_cons_of_mem _ hother)]
  cases values with
  | nil => simp
  | cons v values =>
    have hne : other ≠ name := fun he => hn (he ▸ hother)
    rw [List.zip_cons_cons, SortedMap.lookup_cons_eq, if_neg hne, List.tail_cons]

/-- Members make what the values that they give gather. -/
theorem toOption_build {fs : Fields κ α} (hnames : fs.names.Nodup) (hlength : values.length ≤ fs.names.length)
    {member? : String → Option Json} (h : Gives fs.names values member?) (make : κ) :
    (fs.build member? make).toOption = fs.gather? values make := by
  induction fs generalizing values with
  | done =>
    obtain rfl := List.eq_nil_of_length_eq_zero (Nat.le_zero.1 hlength)
    rfl
  | field name read default rest ih =>
    obtain ⟨hname, hrest⟩ := List.nodup_cons.1 hnames
    have hfirst := h name List.mem_cons_self
    have htail := h.tail hname
    cases values with
    | nil =>
      rw [List.zip_nil_right, List.lookup_nil] at hfirst
      simp only [build, hfirst, gather?]
      cases default with
      | none => rfl
      | some b => exact ih hrest (Nat.zero_le _) htail (make b)
    | cons v values =>
      rw [names, List.zip_cons_cons, List.lookup_cons_self] at hfirst
      simp only [build, hfirst, gather?]
      cases read v with
      | error mismatch => rfl
      | ok b => exact ih hrest (Nat.le_of_succ_le_succ hlength) htail (make b)

end Fields

/-- Values of the first fields of a record, in one of its forms: as the items of an array, or as the members of
an object that has none of the other fields. The object may have members of other names. -/
inductive Form (names : List String) (values : List Json) : Json → Prop where
  | array : Form names values (.array values)
  | object {m : SortedMap Json} (h : Fields.Gives names values m.get?) : Form names values (ofMap m)

namespace Record

variable {r : Record α}

/-- Checking the members before they are looked up makes no difference to what is read. -/
theorem toOption_readMembers (r : Record α) (m : SortedMap Json) :
    (r.readMembers m.entries).toOption = (r.fields.build m.get? r.make).toOption := by
  have hbuild : r.readMembers m.entries =
      (m.entries.forM fun e => r.fields.checkMember e.1 e.2) >>= fun _ => r.fields.build m.get? r.make := rfl
  cases hmade : r.fields.build m.get? r.make with
  | error mismatch =>
    rw [hbuild, hmade]
    cases m.entries.forM fun e => r.fields.checkMember e.1 e.2 <;> rfl
  | ok x =>
    have hcheck (e : String × Json) (he : e ∈ m.entries) : r.fields.checkMember e.1 e.2 = .ok () :=
      Fields.checkMember_of_build hmade ((SortedMap.mem_entries_iff m).1 he)
    rw [hbuild, forM_ok hcheck, hmade]
    rfl

/-- Either form is read as what its values gather. -/
theorem toOption_read_form (hnames : r.fields.names.Nodup) (hlength : values.length ≤ r.fields.names.length)
    {v : Json} (h : Form r.fields.names values v) : (r.read v).toOption = r.fields.gather? values r.make := by
  cases h with
  | array => exact Fields.toOption_buildItems _ _ _ _ _ _ _
  | object h =>
    rw [ofMap, read, toOption_readMembers, Fields.toOption_build hnames hlength h]

end Record

end ChangeDesk.Json
