import ChangeDesk.Text.Basic

/-!
TOML texts: between double quotes with escapes, or between single quotes as they are; between three quotes
they may go over several lines. Writing takes the first form, in a fixed order, in which the text needs no
escape, and escapes only when there is none.
-/
namespace ChangeDesk.Toml

/-- Characters that may stand in a text as they are, quotes and backslashes included. -/
def isTextChar (c : Char) : Bool := c == '\t' || (' ' ≤ c && c ≠ '\x7f')

def scalar? (digits : List Char) : Option Char := do
  let n ← numberIn? 16 hexValue? digits
  if n.isValidChar then some (Char.ofNat n) else none

def escaped? (c : Char) : Option Char :=
  if c = 'b' then some '\x08'
  else if c = 't' then some '\t'
  else if c = 'n' then some '\n'
  else if c = 'f' then some '\x0c'
  else if c = 'r' then some '\r'
  else if c = '"' then some '"'
  else if c = '\\' then some '\\'
  else none

/-- The character of so many digits, and the text behind them. -/
def numbered? (count : Nat) (cs : List Char) : Option (Char × List Char) :=
  if count ≤ cs.length then (scalar? (cs.take count)).map fun c => (c, cs.drop count) else none

theorem length_of_numbered? {count : Nat} {cs rest : List Char} {c : Char}
    (h : numbered? count cs = some (c, rest)) : rest.length ≤ cs.length := by
  unfold numbered? at h
  split at h
  · obtain ⟨d, -, hd⟩ := Option.map_eq_some_iff.1 h
    cases hd
    exact List.length_drop ▸ Nat.sub_le _ _
  · cases h

def escape? : List Char → Option (Char × List Char)
  | 'u' :: rest => numbered? 4 rest
  | 'U' :: rest => numbered? 8 rest
  | e :: rest => (escaped? e).map fun c => (c, rest)
  | [] => none

theorem length_of_escape? {cs rest : List Char} {c : Char} (h : escape? cs = some (c, rest)) :
    rest.length < cs.length := by
  unfold escape? at h
  split at h
  · exact Nat.lt_succ_of_le (length_of_numbered? h)
  · exact Nat.lt_succ_of_le (length_of_numbered? h)
  · obtain ⟨d, -, hd⟩ := Option.map_eq_some_iff.1 h
    cases hd
    exact Nat.lt_succ_self _
  · cases h

/-- The text up to a closing double quote, and what stands behind it. `acc` holds the characters so far,
last first. -/
def basic? (acc : List Char) : List Char → Option (List Char × List Char)
  | [] => none
  | '"' :: rest => some (acc.reverse, rest)
  | '\\' :: rest =>
    match h : escape? rest with
    | some (c, rest) =>
      have := length_of_escape? h
      basic? (c :: acc) rest
    | none => none
  | c :: rest => if isTextChar c then basic? (c :: acc) rest else none
  termination_by cs => cs.length
  decreasing_by all_goals grind

def literal? (acc : List Char) : List Char → Option (List Char × List Char)
  | [] => none
  | '\'' :: rest => some (acc.reverse, rest)
  | c :: rest => if isTextChar c then literal? (c :: acc) rest else none

def skipLines : List Char → List Char
  | ' ' :: rest => skipLines rest
  | '\t' :: rest => skipLines rest
  | '\n' :: rest => skipLines rest
  | '\r' :: '\n' :: rest => skipLines rest
  | cs => cs

theorem length_skipLines (cs : List Char) : (skipLines cs).length ≤ cs.length := by
  fun_induction skipLines cs with
  | case1 rest ih => exact Nat.le_succ_of_le ih
  | case2 rest ih => exact Nat.le_succ_of_le ih
  | case3 rest ih => exact Nat.le_succ_of_le ih
  | case4 rest ih => exact Nat.le_succ_of_le (Nat.le_succ_of_le ih)
  | case5 => exact Nat.le_refl _

def lineEnd? : List Char → Option (List Char)
  | '\n' :: rest => some rest
  | '\r' :: '\n' :: rest => some rest
  | _ => none

def skipBlanks (cs : List Char) : List Char := cs.dropWhile (fun c => c == ' ' || c == '\t')

theorem length_of_lineEnd? {cs rest : List Char} (h : lineEnd? cs = some rest) :
    rest.length < cs.length := by
  unfold lineEnd? at h
  split at h
  · cases h
    exact Nat.lt_succ_self _
  · cases h
    exact Nat.lt_succ_of_lt (Nat.lt_succ_self _)
  · cases h

theorem length_skipBlanks (cs : List Char) : (skipBlanks cs).length ≤ cs.length :=
  (List.dropWhile_sublist _).length_le

/-- The text up to three closing quotes of a kind. In a text with escapes a backslash at the end of a line skips
to the next visible character. -/
def multi? (quote : Char) (escapes : Bool) (acc : List Char) :
    List Char → Option (List Char × List Char)
  | [] => none
  | c :: rest =>
    if c = quote then
      -- two more quotes may stand before the closing ones
      if rest.take 4 = [quote, quote, quote, quote] then
        some ((quote :: quote :: acc).reverse, rest.drop 4)
      else if rest.take 3 = [quote, quote, quote] then some ((quote :: acc).reverse, rest.drop 3)
      else if rest.take 2 = [quote, quote] then some (acc.reverse, rest.drop 2)
      else multi? quote escapes (c :: acc) rest
    else if c = '\n' then multi? quote escapes ('\n' :: acc) rest
    else if c = '\r' then
      match rest with
      | '\n' :: rest => multi? quote escapes ('\n' :: acc) rest
      | _ => none
    else if escapes ∧ c = '\\' then
      match h : lineEnd? (skipBlanks rest) with
      | some next =>
        have := length_of_lineEnd? h
        have := length_skipBlanks rest
        have := length_skipLines next
        multi? quote escapes acc (skipLines next)
      | none =>
        match h : escape? rest with
        | some (c, rest) =>
          have := length_of_escape? h
          multi? quote escapes (c :: acc) rest
        | none => none
    else if isTextChar c then multi? quote escapes (c :: acc) rest
    else none
  termination_by cs => cs.length
  decreasing_by all_goals grind

def skipLineEnd (cs : List Char) : List Char := (lineEnd? cs).getD cs

/-- A text in any of the four forms, and what stands behind it. -/
def quoted? : List Char → Option (List Char × List Char)
  | '"' :: '"' :: '"' :: rest => multi? '"' true [] (skipLineEnd rest)
  | '\'' :: '\'' :: '\'' :: rest => multi? '\'' false [] (skipLineEnd rest)
  | '"' :: rest => basic? [] rest
  | '\'' :: rest => literal? [] rest
  | _ => none

def longestRun (c : Char) (cs : List Char) : Nat :=
  (cs.foldl (fun (run, best) d => if d = c then (run + 1, max (run + 1) best) else (0, best))
    ((0, 0) : Nat × Nat)).2

/-- Whether a character of a text can only be written by its number or a letter. -/
def isControl (c : Char) : Bool := (c < ' ' && c ≠ '\t' && c ≠ '\n') || c == '\x7f'

/-- A character behind a backslash: by a letter, or by the four digits of its number. -/
def escapeChar (c : Char) : List Char :=
  if c = '\x08' then ['\\', 'b']
  else if c = '\t' then ['\\', 't']
  else if c = '\n' then ['\\', 'n']
  else if c = '\x0c' then ['\\', 'f']
  else if c = '\r' then ['\\', 'r']
  else if c = '"' then ['\\', '"']
  else if c = '\\' then ['\\', '\\']
  else ['\\', 'u', '0', '0', upperHexDigit (c.toNat / 16), upperHexDigit (c.toNat % 16)]

/-- Characters between double quotes. Where `lines` holds, line feeds stand as they are, and so do two
double quotes in a row; `run` counts those just written. -/
def body (lines : Bool) (run : Nat) : List Char → List Char
  | [] => []
  | c :: rest =>
    if c = '"' then
      if lines ∧ run < 2 then '"' :: body lines (run + 1) rest
      else escapeChar '"' ++ body lines 0 rest
    else if c = '\n' ∧ lines then '\n' :: body lines 0 rest
    else if isControl c ∨ c = '\t' ∨ c = '\n' ∨ c = '\\' then escapeChar c ++ body lines 0 rest
    else c :: body lines 0 rest

def quote (s : String) : String :=
  let cs := s.toList
  let lines := cs.contains '\n'
  let controls := cs.any isControl
  let backslash := cs.contains '\\'
  let start := if lines then ['\n'] else []
  let around (marks inside : List Char) : String := String.ofList (marks ++ inside ++ marks)
  let single := ['"']
  let triple := ['"', '"', '"']
  if !controls && !backslash && !lines && !cs.contains '"' then around single (body false 0 cs)
  else if !controls && !lines && !cs.contains '\'' then around ['\''] cs
  else if !controls && !backslash && longestRun '"' cs ≤ 2 then around triple (start ++ body true 0 cs)
  else if !controls && longestRun '\'' cs ≤ 2 then around ['\'', '\'', '\''] (start ++ cs)
  else if lines then around triple (start ++ body true 0 cs)
  else around single (body false 0 cs)

end ChangeDesk.Toml
