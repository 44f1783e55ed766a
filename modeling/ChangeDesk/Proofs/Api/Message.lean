import ChangeDesk.Api.Response
import Mathlib.Data.List.Lex

/-!
The places of an error body at which a message may stand. A place is a path of steps, to the items of arrays and to
the three members that carry messages, and paths are ordered by the first steps in which they differ, which is the
order in which a depth-first search comes to them. The message of a body is the text at the first place that has one.
-/
namespace ChangeDesk

inductive Json.Step where
  | item (index : Nat)
  | member (key : String)
deriving DecidableEq, Repr

mutual

/-- The value with only those members of the objects in it whose key is to be kept. -/
def Json.restrict (keep : String → Bool) : Json → Json
  | .array items => .array (restrictItems keep items)
  | .object members => .object (restrictMembers keep members)
  | .null => .null
  | .bool b => .bool b
  | .number n => .number n
  | .string s => .string s

def Json.restrictItems (keep : String → Bool) : List Json → List Json
  | [] => []
  | v :: rest => restrict keep v :: restrictItems keep rest

def Json.restrictMembers (keep : String → Bool) : List (String × Json) → List (String × Json)
  | [] => []
  | (k, v) :: rest =>
    if keep k then (k, restrict keep v) :: restrictMembers keep rest else restrictMembers keep rest

end

namespace Api

open Json (Step)

/-- The value that a step leads to. Members under other keys than those of messages are not stepped to. -/
def follow? : Json → Step → Option Json
  | .array items, .item i => items[i]?
  | .object members, .member key => if key ∈ messageKeys then members.lookup key else none
  | _, _ => none

/-- An earlier item of an array, or a member that is looked at earlier. -/
def Before : Step → Step → Prop
  | .item i, .item j => i < j
  | .member k, .member l => messageKeys.idxOf k < messageKeys.idxOf l
  | _, _ => False

/-- At the end of the path stands this text, and it is not blank. -/
def Finds (v : Json) (p : List Step) (s : String) : Prop :=
  p.foldlM follow? v = some (.string s) ∧ Text.isBlank s = false

/-- Of all paths of at most `n` steps to a text that is not blank, this is the first in depth-first order. -/
structure FindsFirst (n : Nat) (v : Json) (p : List Step) (s : String) : Prop where
  within : p.length ≤ n
  finds : Finds v p s
  first : ∀ q t, q.length ≤ n → Finds v q t → q = p ∨ List.Lex Before p q

variable {v w : Json} {s t : String} {p q : List Step} {a b : Step} {n : Nat}

theorem Before.asymm (h : Before a b) : ¬ Before b a := by
  cases a <;> cases b
  · exact Nat.lt_asymm h
  · exact h.elim
  · exact h.elim
  · exact Nat.lt_asymm h

instance : Std.Asymm Before := ⟨fun _ _ h => h.asymm⟩

/-- The steps into a value with the values they lead to, in the order in which they are looked at. -/
def branches : Json → List (Step × Json)
  | .array items => items.zipIdx.map (fun (w, i) => (.item i, w))
  | .object members => messageKeys.filterMap (fun key => (members.lookup key).map (fun w => (.member key, w)))
  | _ => []

theorem map_branches (v : Json) : (branches v).map Prod.snd = children v := by
  cases v with
  | array items => simp [branches, children, Function.comp_def]
  | object members => simp [branches, children, List.map_filterMap, Function.comp_def]
  | _ => rfl

theorem mem_branches_iff : (a, w) ∈ branches v ↔ follow? v a = some w := by
  cases v with
  | array items =>
    cases a with
    | item i => simp [branches, follow?, List.mem_zipIdx_iff_getElem?]
    | member key => simp [branches, follow?]
  | object members =>
    cases a with
    | item i => simp [branches, follow?]
    | member key => simp [branches, follow?]
  | _ => simp [branches, follow?]

theorem pairwise_branches (v : Json) : (branches v).Pairwise (fun x y => Before x.1 y.1) := by
  cases v with
  | array items =>
    rw [branches, List.pairwise_map, List.pairwise_iff_getElem]
    intro i j hi hj hij
    simpa [Before] using hij
  | object members =>
    have hkeys : messageKeys.Pairwise (fun k l => messageKeys.idxOf k < messageKeys.idxOf l) := by decide
    rw [branches, List.pairwise_filterMap]
    refine hkeys.imp fun {k l} hlt x hx y hy => ?_
    obtain ⟨-, -, rfl⟩ := Option.map_eq_some_iff.1 hx
    obtain ⟨-, -, rfl⟩ := Option.map_eq_some_iff.1 hy
    exact hlt
  | _ => exact List.Pairwise.nil

theorem finds_nil : Finds v [] s ↔ v = .string s ∧ Text.isBlank s = false := by simp [Finds]

theorem finds_cons : Finds v (a :: p) s ↔ ∃ w, follow? v a = some w ∧ Finds w p s := by
  rw [Finds, List.foldlM_cons]
  cases h : follow? v a with
  | none => simp
  | some w => simp [Finds]

/-- Nothing is found below a text. -/
theorem finds_string : Finds (.string t) p s ↔ p = [] ∧ s = t ∧ Text.isBlank s = false := by
  cases p with
  | nil => simp [finds_nil, @eq_comm _ t]
  | cons a p => simp [finds_cons, follow?]

theorem exists_string_or (v : Json) : (∃ t, v = .string t) ∨ v.text? = none := by
  cases v with
  | string t => exact .inl ⟨t, rfl⟩
  | _ => exact .inr rfl

theorem messageWithin?_string : messageWithin? n (.string t) = some s ↔ s = t ∧ Text.isBlank s = false := by
  have htext : messageWithin? n (.string t) = if Text.isBlank t then none else some t := by cases n <;> rfl
  rw [htext]
  constructor
  · intro h
    cases hblank : Text.isBlank t <;> rw [hblank] at h <;> cases h
    exact ⟨rfl, hblank⟩
  · rintro ⟨rfl, hblank⟩
    rw [hblank]
    rfl

theorem messageWithin?_zero (h : v.text? = none) : messageWithin? 0 v = none := by
  cases v with
  | string s => cases h
  | _ => rfl

theorem messageWithin?_succ (h : v.text? = none) :
    messageWithin? (n + 1) v = (branches v).findSome? (fun b => messageWithin? n b.2) := by
  have hchildren : messageWithin? (n + 1) v = (children v).findSome? (messageWithin? n) := by
    cases v with
    | string s => cases h
    | _ => rfl
  rw [hchildren, ← map_branches, List.findSome?_map]
  rfl

/-- Where nothing is found, no path within the steps leads to a text that is not blank. -/
theorem not_finds (h : messageWithin? n v = none) (hp : p.length ≤ n) : ¬ Finds v p s := by
  intro hfinds
  induction p generalizing n v with
  | nil =>
    obtain ⟨rfl, hblank⟩ := finds_nil.1 hfinds
    rw [messageWithin?_string.2 ⟨rfl, hblank⟩] at h
    cases h
  | cons a p ih =>
    obtain ⟨w, hw, hrest⟩ := finds_cons.1 hfinds
    rcases exists_string_or v with ⟨t, rfl⟩ | htext
    · cases hw
    · cases n with
      | zero => simp at hp
      | succ n =>
        rw [messageWithin?_succ htext, List.findSome?_eq_none_iff] at h
        exact ih (h (a, w) (mem_branches_iff.2 hw)) (Nat.le_of_succ_le_succ hp) hrest

/-- A text is all there is at its place. -/
theorem findsFirst_string (hblank : Text.isBlank t = false) : FindsFirst n (.string t) [] t := by
  refine ⟨Nat.zero_le n, finds_nil.2 ⟨rfl, hblank⟩, fun q u _ hq => ?_⟩
  exact .inl (finds_string.1 hq).1

/-- What is found stands at the end of the first path within the steps. -/
theorem exists_findsFirst (h : messageWithin? n v = some s) : ∃ p, FindsFirst n v p s := by
  induction n generalizing v with
  | zero =>
    rcases exists_string_or v with ⟨t, rfl⟩ | htext
    · obtain ⟨rfl, hblank⟩ := messageWithin?_string.1 h
      exact ⟨[], findsFirst_string hblank⟩
    · rw [messageWithin?_zero htext] at h
      cases h
  | succ n ih =>
    rcases exists_string_or v with ⟨t, rfl⟩ | htext
    · obtain ⟨rfl, hblank⟩ := messageWithin?_string.1 h
      exact ⟨[], findsFirst_string hblank⟩
    · rw [messageWithin?_succ htext, List.findSome?_eq_some_iff] at h
      obtain ⟨front, ⟨a, w⟩, rest, hbranches, hw, hnone⟩ := h
      obtain ⟨p, hp⟩ := ih hw
      have hmem : (a, w) ∈ branches v := by simp [hbranches]
      refine ⟨a :: p, Nat.succ_le_succ hp.within, finds_cons.2 ⟨w, mem_branches_iff.1 hmem, hp.finds⟩, ?_⟩
      intro q t hq hfinds
      cases q with
      | nil =>
        obtain ⟨rfl, -⟩ := finds_nil.1 hfinds
        cases htext
      | cons b q =>
        obtain ⟨u, hu, hrest⟩ := finds_cons.1 hfinds
        have hsteps := Nat.le_of_succ_le_succ hq
        have hplace := mem_branches_iff.2 hu
        have hsorted := pairwise_branches v
        rw [hbranches] at hplace hsorted
        -- A branch in front has nothing, the same branch has nothing earlier, and those behind come later.
        rcases List.mem_append.1 hplace with hfront | hplace
        · exact absurd hrest (not_finds (hnone _ hfront) hsteps)
        · rcases List.mem_cons.1 hplace with hsame | hbehind
          · obtain ⟨rfl, rfl⟩ := Prod.mk.inj hsame
            exact (hp.first q t hsteps hrest).imp (congrArg _) .cons
          · obtain ⟨-, hcons, -⟩ := List.pairwise_append.1 hsorted
            exact .inr (.rel ((List.pairwise_cons.1 hcons).1 _ hbehind))

/-- There is one first path. -/
theorem FindsFirst.unique (h : FindsFirst n v p s) (h' : FindsFirst n v q t) : s = t := by
  have hpath : p = q := by
    rcases h'.first p s h.within h.finds with heq | hlt
    · exact heq
    · rcases h.first q t h'.within h'.finds with heq | hlt'
      · exact heq.symm
      · exact absurd hlt' ((List.Lex.asymm Before).asymm _ _ hlt)
  subst hpath
  have htexts := h.finds.1.symm.trans h'.finds.1
  simpa using htexts

theorem messageWithin?_eq_none_iff :
    messageWithin? n v = none ↔ ∀ p s, p.length ≤ n → ¬ Finds v p s := by
  refine ⟨fun h p s hp => not_finds h hp, fun h => ?_⟩
  cases hfound : messageWithin? n v with
  | none => rfl
  | some s =>
    obtain ⟨p, hp⟩ := exists_findsFirst hfound
    exact absurd hp.finds (h p s hp.within)

theorem messageWithin?_eq_some_iff : messageWithin? n v = some s ↔ ∃ p, FindsFirst n v p s := by
  refine ⟨exists_findsFirst, fun ⟨p, hp⟩ => ?_⟩
  cases hfound : messageWithin? n v with
  | none => exact absurd hp.finds (not_finds hfound hp.within)
  | some t =>
    obtain ⟨q, hq⟩ := exists_findsFirst hfound
    rw [hp.unique hq]

/-! ## Other members -/

variable {keep : String → Bool}

theorem restrictItems_eq (items : List Json) : Json.restrictItems keep items = items.map (Json.restrict keep) := by
  induction items with
  | nil => rfl
  | cons v rest ih => rw [Json.restrictItems, ih, List.map_cons]

theorem lookup_restrictMembers {key : String} (h : keep key = true) (members : List (String × Json)) :
    (Json.restrictMembers keep members).lookup key = (members.lookup key).map (Json.restrict keep) := by
  induction members with
  | nil => rfl
  | cons e rest ih =>
    obtain ⟨k, v⟩ := e
    rw [Json.restrictMembers, SortedMap.lookup_cons_eq]
    by_cases hk : key = k
    · subst hk
      rw [if_pos h, if_pos rfl, SortedMap.lookup_cons_eq, if_pos rfl, Option.map_some]
    · rw [if_neg hk, ← ih]
      split
      · rw [SortedMap.lookup_cons_eq, if_neg hk]
      · rfl

theorem children_restrict (h : ∀ key ∈ messageKeys, keep key = true) (v : Json) :
    children (v.restrict keep) = (children v).map (Json.restrict keep) := by
  cases v with
  | array items => exact restrictItems_eq items
  | object members =>
    rw [Json.restrict, children, children, List.map_filterMap]
    exact List.filterMap_congr fun key hkey => lookup_restrictMembers (h key hkey) members
  | _ => rfl

/-- Members that carry no messages make no difference. -/
theorem messageWithin?_restrict (h : ∀ key ∈ messageKeys, keep key = true) (n : Nat) (v : Json) :
    messageWithin? n (v.restrict keep) = messageWithin? n v := by
  induction n generalizing v with
  | zero => cases v <;> rfl
  | succ n ih =>
    have hbelow : (children (v.restrict keep)).findSome? (messageWithin? n) =
        (children v).findSome? (messageWithin? n) := by
      rw [children_restrict h, List.findSome?_map, Function.comp_def]
      simp only [ih]
    cases v with
    | string s => rfl
    | _ => exact hbelow

/-- The message of a body is the first text that is not blank, in depth-first order, among those within eight steps
to items of arrays and to the members `message`, `error` and `data`, and it is taken as it stands. There is none only
if no such path leads to one, and all other members make no difference. -/
theorem extractMessage_first (v : Json) :
    (∀ s, extractMessage v = some s ↔ ∃ p, FindsFirst 8 v p s) ∧
      (extractMessage v = none ↔ ∀ p s, p.length ≤ 8 → ¬ Finds v p s) ∧
      extractMessage (v.restrict (messageKeys.contains ·)) = extractMessage v := by
  refine ⟨fun s => messageWithin?_eq_some_iff, messageWithin?_eq_none_iff, ?_⟩
  exact messageWithin?_restrict (fun key hkey => by simpa using hkey) messageDepth v

end Api

end ChangeDesk
