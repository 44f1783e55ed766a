import ChangeDesk.Proofs.Json.Floats
import ChangeDesk.Proofs.Json.Injective
import ChangeDesk.Proofs.SortedMap

/-!
Reading what was printed. A value is read from its text exactly if it nests no deeper than the reading allows, whatever
its numbers are. One whose numbers are integers is read back: the keys of its objects come back sorted, so that a
canonical value comes back as it was.
-/
namespace ChangeDesk.Json

mutual

def Integral : Json → Prop
  | .number (.float _) => False
  | .array items => IntegralItems items
  | .object members => IntegralMembers members
  | _ => True

def IntegralItems : List Json → Prop
  | [] => True
  | v :: rest => Integral v ∧ IntegralItems rest

def IntegralMembers : List (String × Json) → Prop
  | [] => True
  | (_, v) :: rest => Integral v ∧ IntegralMembers rest

end

mutual

/-- The value with the keys of every object sorted; of a repeated key the last member stays. -/
def sorted : Json → Json
  | .array items => .array (sortedItems items)
  | .object members => ofMembers (sortedMembers members)
  | v => v

def sortedItems : List Json → List Json
  | [] => []
  | v :: rest => sorted v :: sortedItems rest

def sortedMembers : List (String × Json) → List (String × Json)
  | [] => []
  | (k, v) :: rest => (k, sorted v) :: sortedMembers rest

end

/-! ## Between the values -/

theorem skipBlanks_chars (v : Json) (x : List Char) : skipBlanks (chars v ++ x) = chars v ++ x := by
  obtain ⟨c, t, hv, hc⟩ := v.exists_head
  have hne (d : Char) (hd : shapeOf? d = none) : c ≠ d := by
    rintro rfl
    rw [hd] at hc
    cases hc
  have hblank : isBlankChar c = false := by
    simp [isBlankChar, hne ' ' (by decide), hne '\t' (by decide), hne '\n' (by decide), hne '\r' (by decide)]
  simp [hv, skipBlanks, hblank]

theorem stringBody?_literal (s : String) (x : List Char) :
    stringBody? [] (s.toList.flatMap escapeChar ++ '"' :: x) = some (s.toList, x) := by
  rw [stringBody?_flatMap]
  rfl

variable {fuel depth : Nat} {x : List Char}

theorem value?_array (v : Json) (x : List Char) : value? (fuel + 1) (depth + 1) ('[' :: (chars v ++ x)) =
    (items? fuel depth [] (chars v ++ x)).map fun (vs, rest) => (.array vs, rest) := by
  have hopen : skipBlanks ('[' :: (chars v ++ x)) = '[' :: (chars v ++ x) := rfl
  rw [value?, hopen]
  simp only [skipBlanks_chars]
  split
  · rename_i rest h
    exact absurd h (chars_append_ne v (by decide) x rest)
  · rfl

theorem value?_object (k : String) (x : List Char) :
    value? (fuel + 1) (depth + 1) ('\x7b' :: (stringChars k ++ x)) =
      (members? fuel depth .empty (stringChars k ++ x)).map fun (m, rest) => (ofMap m, rest) := rfl

theorem value?_number {cs rest : List Char} {l : Literal} (h : literal? cs = some (l, rest)) :
    value? (fuel + 1) depth cs = l.number?.map fun n => (.number n, rest) := by
  obtain ⟨c, t, rfl, hc⟩ := shapeOf?_of_literal? h
  have hne (d : Char) (hd : shapeOf? d ≠ some .number) : c ≠ d := by
    rintro rfl
    exact hd hc
  have hblank : isBlankChar c = false := by
    simp [isBlankChar, hne ' ' (by decide), hne '\t' (by decide), hne '\n' (by decide), hne '\r' (by decide)]
  have hskip : skipBlanks (c :: t) = c :: t := by simp [skipBlanks, hblank]
  rw [value?, hskip]
  split
  iterate 6
    · rename_i hother
      exact absurd (List.cons.inj hother).1 (hne _ (by decide))
  · simp only [h, Option.bind_eq_bind, Option.bind_some]
    cases l.number? <;> rfl

/-- The printed value is read as this value exactly if it nests no deeper than is allowed. -/
def Reads (v w : Json) : Prop :=
  ∀ ⦃fuel depth : Nat⦄ ⦃x : List Char⦄, (chars v).length ≤ fuel → Ends x →
    value? fuel depth (chars v ++ x) = if v.depth ≤ depth then some (w, x) else none

def ReadsMember (e d : String × Json) : Prop := e.1 = d.1 ∧ Reads e.2 d.2

variable {v w : Json} {items ws : List Json} {members ms : List (String × Json)}

/-- The items of an array are read one by one; one that nests too deep ends the reading. -/
theorem items?_reads (h : List.Forall₂ Reads items ws) (hv : Reads v w) {acc : List Json}
    (hfuel : (chars v ++ itemsChars items).length ≤ fuel) :
    items? fuel depth acc (chars v ++ (itemsChars items ++ x)) =
      if max v.depth (depthItems items) ≤ depth then some (acc.reverse ++ w :: ws, x) else none := by
  induction h generalizing v w fuel acc with
  | nil =>
    have hlength : (chars v).length + 1 ≤ fuel := by simpa [itemsChars] using hfuel
    obtain ⟨fuel, rfl⟩ : ∃ n, fuel = n + 1 := ⟨fuel - 1, by omega⟩
    rw [items?, hv (by omega) (ends_itemsChars [] x)]
    by_cases h : v.depth ≤ depth
    · simp [h, depthItems, itemsChars, skipBlanks, isBlankChar]
    · simp [h, depthItems]
  | @cons u y items ws hu _ ih =>
    have hlength : (chars v).length + ((chars u ++ itemsChars items).length + 1) ≤ fuel := by
      simpa [itemsChars] using hfuel
    obtain ⟨fuel, rfl⟩ : ∃ n, fuel = n + 1 := ⟨fuel - 1, by omega⟩
    rw [items?, hv (by omega) (ends_itemsChars _ x)]
    by_cases hd : v.depth ≤ depth
    · have hrest : skipBlanks (itemsChars (u :: items) ++ x) = ',' :: (chars u ++ (itemsChars items ++ x)) := by
        simp [itemsChars, skipBlanks, isBlankChar]
      simp only [if_pos hd, hrest, ih hu (show (chars u ++ itemsChars items).length ≤ fuel by omega)]
      simp [depthItems, hd]
    · simp [hd, depthItems]

/-- How the reading of members goes on behind one of them. -/
def afterMember? (fuel depth : Nat) (acc : SortedMap Json) (cs : List Char) :
    Option (SortedMap Json × List Char) :=
  match skipBlanks cs with
  | ',' :: rest => members? fuel depth acc rest
  | '\x7d' :: rest => some (acc, rest)
  | _ => none

/-- The first member is read, unless it nests too deep, and then what stands behind it. -/
theorem members?_member {k : String} {acc : SortedMap Json} (hv : Reads v w)
    (hfuel : (chars v).length ≤ fuel) (hx : Ends x) :
    members? (fuel + 1) depth acc (stringChars k ++ ':' :: (chars v ++ x)) =
      if v.depth ≤ depth then afterMember? fuel depth (acc.insert k w) x else none := by
  have hkey : skipBlanks (stringChars k ++ ':' :: (chars v ++ x)) =
      '"' :: (k.toList.flatMap escapeChar ++ '"' :: ':' :: (chars v ++ x)) := by
    simp [stringChars, skipBlanks, isBlankChar]
  have hcolon : skipBlanks (':' :: (chars v ++ x)) = ':' :: (chars v ++ x) := rfl
  rw [members?, hkey]
  simp only [stringBody?_literal, hcolon, hv hfuel hx, String.ofList_toList]
  by_cases hd : v.depth ≤ depth
  · simp only [if_pos hd]
    rfl
  · simp only [if_neg hd]

/-- The members of an object are read one by one; one that nests too deep ends the reading. -/
theorem members?_reads (h : List.Forall₂ ReadsMember members ms) (hv : Reads v w) {k : String}
    {acc : SortedMap Json} (hfuel : (chars v ++ membersChars members).length ≤ fuel) :
    members? fuel depth acc (stringChars k ++ ':' :: (chars v ++ (membersChars members ++ x))) =
      if max v.depth (depthMembers members) ≤ depth then
        some (((k, w) :: ms).foldl (fun m e => m.insert e.1 e.2) acc, x)
      else none := by
  induction h generalizing k v w fuel acc with
  | nil =>
    have hlength : (chars v).length + 1 ≤ fuel := by simpa [membersChars] using hfuel
    obtain ⟨fuel, rfl⟩ : ∃ n, fuel = n + 1 := ⟨fuel - 1, by omega⟩
    rw [members?_member hv (by omega) (ends_membersChars [] x)]
    simp [afterMember?, depthMembers, membersChars, skipBlanks, isBlankChar]
  | @cons e d members ms he _ ih =>
    obtain ⟨l, u⟩ := e
    obtain ⟨l', y⟩ := d
    obtain ⟨rfl, hu⟩ : l = l' ∧ Reads u y := he
    have hlength : (chars v).length + ((chars u ++ membersChars members).length + 1) ≤ fuel := by
      have : (chars v ++ membersChars ((l, u) :: members)).length =
          (chars v).length + ((stringChars l).length + ((chars u ++ membersChars members).length + 2)) := by
        simp [membersChars]
        omega
      omega
    obtain ⟨fuel, rfl⟩ : ∃ n, fuel = n + 1 := ⟨fuel - 1, by omega⟩
    have hrest : skipBlanks (membersChars ((l, u) :: members) ++ x) =
        ',' :: (stringChars l ++ ':' :: (chars u ++ (membersChars members ++ x))) := by
      simp [membersChars, skipBlanks, isBlankChar]
    rw [members?_member hv (by omega) (ends_membersChars _ x), afterMember?, hrest]
    simp only [ih hu (show (chars u ++ membersChars members).length ≤ fuel by omega)]
    by_cases hd : v.depth ≤ depth
    · simp [depthMembers, hd]
    · simp [hd, depthMembers]

/-- A value is never printed as nothing, so some fuel is left for its reading. -/
theorem exists_fuel (h : (chars v).length ≤ fuel) : ∃ n, fuel = n + 1 := by
  obtain ⟨c, t, hv, -⟩ := v.exists_head
  rw [hv, List.length_cons] at h
  exact ⟨fuel - 1, by omega⟩

theorem reads_null : Reads .null .null := by
  intro fuel depth x hfuel hx
  obtain ⟨fuel, rfl⟩ := exists_fuel hfuel
  rfl

theorem reads_bool (b : Bool) : Reads (.bool b) (.bool b) := by
  intro fuel depth x hfuel hx
  obtain ⟨fuel, rfl⟩ := exists_fuel hfuel
  cases b <;> rfl

theorem reads_number {n k : Number} (h : n.ReadsAs k) : Reads (.number n) (.number k) := by
  intro fuel depth x hfuel hx
  obtain ⟨fuel, rfl⟩ := exists_fuel hfuel
  obtain ⟨l, hl, hk⟩ := h
  rw [chars, value?_number (hl x hx), hk]
  rfl

theorem reads_string (s : String) : Reads (.string s) (.string s) := by
  intro fuel depth x hfuel hx
  obtain ⟨fuel, rfl⟩ := exists_fuel hfuel
  have hopen : skipBlanks (chars (.string s) ++ x) = '"' :: (s.toList.flatMap escapeChar ++ '"' :: x) := by
    simp [chars, stringChars, skipBlanks, isBlankChar]
  rw [value?, hopen]
  simp [stringBody?_literal, Json.depth]

theorem reads_array (h : List.Forall₂ Reads items ws) : Reads (.array items) (.array ws) := by
  intro fuel depth x hfuel hx
  obtain ⟨fuel, rfl⟩ := exists_fuel hfuel
  cases depth with
  | zero => cases items <;> simp [chars, value?, skipBlanks, isBlankChar, Json.depth]
  | succ depth =>
    cases h with
    | nil => simp [chars, value?, skipBlanks, isBlankChar, Json.depth, depthItems]
    | @cons v w items ws hv hrest =>
      have hlength : (chars v ++ itemsChars items).length ≤ fuel := by simpa [chars] using hfuel
      rw [chars, List.cons_append, List.append_assoc, value?_array, items?_reads hrest hv hlength]
      by_cases hd : max v.depth (depthItems items) ≤ depth
      · simp [hd, Json.depth, depthItems]
      · simp [hd, Json.depth, depthItems]

theorem reads_object (h : List.Forall₂ ReadsMember members ms) : Reads (.object members) (ofMembers ms) := by
  intro fuel depth x hfuel hx
  obtain ⟨fuel, rfl⟩ := exists_fuel hfuel
  cases depth with
  | zero => cases members <;> simp [chars, value?, skipBlanks, isBlankChar, Json.depth]
  | succ depth =>
    cases h with
    | nil =>
      simp [chars, value?, skipBlanks, isBlankChar, Json.depth, depthMembers, ofMembers, SortedMap.ofList, ofMap,
        SortedMap.empty]
    | @cons e d members ms he hrest =>
      obtain ⟨k, v⟩ := e
      obtain ⟨k', w⟩ := d
      obtain ⟨rfl, hv⟩ : k = k' ∧ Reads v w := he
      have hlength : (chars v ++ membersChars members).length ≤ fuel := by
        simp [chars] at hfuel ⊢
        omega
      rw [chars, List.cons_append, List.append_assoc, List.cons_append, List.append_assoc, value?_object,
        members?_reads hrest hv hlength]
      by_cases hd : max v.depth (depthMembers members) ≤ depth
      · simp [hd, Json.depth, depthMembers, ofMembers, SortedMap.ofList]
      · simp [hd, Json.depth, depthMembers]

mutual

/-- Every value whose numbers are integers is read back, in its sorted form. -/
theorem reads_sorted (v : Json) (hi : v.Integral) : Reads v v.sorted := by
  cases v with
  | null => exact reads_null
  | bool b => exact reads_bool b
  | number n =>
    cases n with
    | float z => exact hi.elim
    | integer n hn => exact reads_number (Number.readsAs_integer hn)
  | string s => exact reads_string s
  | array items => exact reads_array (reads_sortedItems items hi)
  | object members => exact reads_object (reads_sortedMembers members hi)

theorem reads_sortedItems (items : List Json) (hi : IntegralItems items) :
    List.Forall₂ Reads items (sortedItems items) := by
  cases items with
  | nil => exact .nil
  | cons v rest => exact .cons (reads_sorted v hi.1) (reads_sortedItems rest hi.2)

theorem reads_sortedMembers (members : List (String × Json)) (hi : IntegralMembers members) :
    List.Forall₂ ReadsMember members (sortedMembers members) := by
  cases members with
  | nil => exact .nil
  | cons e rest =>
    obtain ⟨k, v⟩ := e
    exact .cons ⟨rfl, reads_sorted v hi.1⟩ (reads_sortedMembers rest hi.2)

end

mutual

/-- Every value is read as some value, whatever numbers are in it. -/
theorem exists_reads (v : Json) : ∃ w, Reads v w := by
  cases v with
  | null => exact ⟨_, reads_null⟩
  | bool b => exact ⟨_, reads_bool b⟩
  | number n =>
    obtain ⟨k, hk⟩ := n.exists_readsAs
    exact ⟨_, reads_number hk⟩
  | string s => exact ⟨_, reads_string s⟩
  | array items =>
    obtain ⟨ws, h⟩ := exists_reads_items items
    exact ⟨_, reads_array h⟩
  | object members =>
    obtain ⟨ms, h⟩ := exists_reads_members members
    exact ⟨_, reads_object h⟩

theorem exists_reads_items (items : List Json) : ∃ ws, List.Forall₂ Reads items ws := by
  cases items with
  | nil => exact ⟨_, .nil⟩
  | cons v rest =>
    obtain ⟨w, hw⟩ := exists_reads v
    obtain ⟨ws, h⟩ := exists_reads_items rest
    exact ⟨_, .cons hw h⟩

theorem exists_reads_members (members : List (String × Json)) : ∃ ms, List.Forall₂ ReadsMember members ms := by
  cases members with
  | nil => exact ⟨_, .nil⟩
  | cons e rest =>
    obtain ⟨k, v⟩ := e
    obtain ⟨w, hw⟩ := exists_reads v
    obtain ⟨ms, h⟩ := exists_reads_members rest
    exact ⟨(k, w) :: ms, .cons ⟨rfl, hw⟩ h⟩

end

/-- A whole text is read exactly if the value nests no deeper than the reading allows. -/
theorem Reads.parse?_compact (h : Reads v w) :
    parse? v.compact = if v.depth ≤ nestingLimit then some w else none := by
  have hread : value? (2 * (chars v).length + 2) nestingLimit (chars v) =
      if v.depth ≤ nestingLimit then some (w, []) else none := by
    simpa using h (show (chars v).length ≤ 2 * (chars v).length + 2 by omega) Ends.nil
  rw [parse?, parseWithin?, compact, String.toList_ofList, hread]
  by_cases h : v.depth ≤ nestingLimit <;> simp [h, skipBlanks]

/-- The text of a value whose numbers are integers is read exactly if it nests no deeper than the reading
allows. -/
theorem parse?_compact (hi : v.Integral) :
    parse? v.compact = if v.depth ≤ nestingLimit then some v.sorted else none :=
  (v.reads_sorted hi).parse?_compact

/-! ## Canonical values -/

mutual

/-- A canonical value is sorted already. -/
theorem sorted_of_canonical (v : Json) (hv : v.Canonical) : v.sorted = v := by
  cases v with
  | array items => rw [sorted, sortedItems_of_canonical items hv]
  | object members =>
    rw [sorted, sortedMembers_of_canonical members hv.2, ofMembers, ofMap, SortedMap.entries_ofList hv.1]
  | _ => rfl

theorem sortedItems_of_canonical (items : List Json) (h : CanonicalItems items) : sortedItems items = items := by
  cases items with
  | nil => rfl
  | cons v rest => rw [sortedItems, sorted_of_canonical v h.1, sortedItems_of_canonical rest h.2]

theorem sortedMembers_of_canonical (members : List (String × Json)) (h : CanonicalMembers members) :
    sortedMembers members = members := by
  cases members with
  | nil => rfl
  | cons e rest =>
    obtain ⟨k, v⟩ := e
    rw [sortedMembers, sorted_of_canonical v h.1, sortedMembers_of_canonical rest h.2]

end

/-! ## Items and members one by one -/

variable {n : Nat}

theorem sortedItems_eq_map (items : List Json) : sortedItems items = items.map sorted := by
  induction items with
  | nil => rfl
  | cons v rest ih => rw [sortedItems, ih, List.map_cons]

theorem integralItems_iff : IntegralItems items ↔ ∀ v ∈ items, v.Integral := by
  induction items with
  | nil => simp [IntegralItems]
  | cons v rest ih => simp [IntegralItems, ih]

theorem integralMembers_iff : IntegralMembers members ↔ ∀ e ∈ members, e.2.Integral := by
  induction members with
  | nil => simp [IntegralMembers]
  | cons e rest ih => simp [IntegralMembers, ih]

theorem canonicalMembers_iff : CanonicalMembers members ↔ ∀ e ∈ members, e.2.Canonical := by
  induction members with
  | nil => simp [CanonicalMembers]
  | cons e rest ih => simp [CanonicalMembers, ih]

theorem depthItems_le_iff : depthItems items ≤ n ↔ ∀ v ∈ items, v.depth ≤ n := by
  induction items with
  | nil => simp [depthItems]
  | cons v rest ih => simp [depthItems, ih]

theorem depthMembers_le_iff : depthMembers members ≤ n ↔ ∀ e ∈ members, e.2.depth ≤ n := by
  induction members with
  | nil => simp [depthMembers]
  | cons e rest ih => simp [depthMembers, ih]

/-! ## Values of a given depth -/

def nest : Nat → Json → Json
  | 0, v => v
  | n + 1, v => .array [nest n v]

theorem depth_nest (n : Nat) (v : Json) : (nest n v).depth = v.depth + n := by
  induction n with
  | zero => rfl
  | succ n ih => simp [nest, Json.depth, depthItems, ih, Nat.add_assoc]

theorem canonical_nest (n : Nat) (h : v.Canonical) : (nest n v).Canonical := by
  induction n with
  | zero => exact h
  | succ n ih => exact ⟨ih, trivial⟩

theorem integral_nest (n : Nat) (h : v.Integral) : (nest n v).Integral := by
  induction n with
  | zero => exact h
  | succ n ih => exact ⟨ih, trivial⟩

end ChangeDesk.Json
