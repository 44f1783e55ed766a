import ChangeDesk.Desk.Job
import ChangeDesk.Text.Basic

/-!
The commands of the program, and how its arguments are read.
-/

namespace ChangeDesk

inductive SessionAction where
  | list
  | clear
deriving DecidableEq, Repr

inductive Command where
  | desk
  | providers
  /-- Looks up completions. -/
  | search (query : Query)
  /-- Asks for a token, and perhaps for a second one against forged requests. -/
  | auth (csrf : Bool)
  /-- Changes the stored settings, or shows those in effect. -/
  | config (list : Bool) (apiUrl : Option String) (timeout : Option UInt64)
  | session (action : SessionAction)
deriving DecidableEq, Repr

/-- A run of the program as its arguments ask for it. Without a command the desk is opened. -/
structure Invocation where
  verbose : Bool
  command : Option Command
deriving DecidableEq, Repr

/-- Why arguments are refused, or answered with a help text. -/
inductive UsageError where
  | help
  /-- Help in place of a command that says nothing. -/
  | helpOnMissing
  | missingSubcommand
  | invalidSubcommand
  | unknownArgument
  | missingArgument
  /-- An option is given twice. -/
  | conflict
  /-- An option without a value is given one. -/
  | tooManyValues
  /-- An option with a value is given none. -/
  | missingValue
  /-- A value is not of the kind that its option takes. -/
  | badValue
deriving DecidableEq, Repr

def UsageError.exitCode : UsageError → Nat
  | help => 0
  | _ => 2

def Command.overview : String :=
  "Usage: noq-request [-v | --verbose] [COMMAND]\n\n" ++
  "Commands for self-service requests:\n" ++
  "  new                                          opens the desk\n" ++
  "  providers                                    lists the integrations\n" ++
  "  search PROVIDER TEMPLATE_ID FIELD PREFIX     lists completions\n" ++
  "  auth [--csrf]                                stores an access token\n" ++
  "  config [--show] [--api-url URL] [--timeout SECONDS]\n" ++
  "                                               changes or shows the settings\n" ++
  "  session show | clear                         lists or removes what is kept between runs\n"

end ChangeDesk

/-!
## Arguments

Reading the arguments of the program. The words are taken in one after another: each enters a subcommand,
names an option, is the value of the option before it, or is an operand. An option that waits for its value,
or whose value has not been checked yet, is settled before the next option, operand or end; a word that
nothing accepts is refused before that. Behind `--` there are only operands.
-/

namespace ChangeDesk.Arguments

inductive ValueKind where
  | text
  | natural
deriving DecidableEq, Repr

/-- An option: its long name, its letter, and what value it takes. -/
structure Opt where
  name : String
  letter : Option Char
  value : Option ValueKind
deriving DecidableEq, Repr

def verboseOpt : Opt := ⟨"verbose", some 'v', none⟩

def helpOpt : Opt := ⟨"help", some 'h', none⟩

def optionsOf (path : List String) : List Opt :=
  (match path with
    | ["auth"] => [⟨"csrf", none, none⟩]
    | ["config"] =>
      [⟨"show", none, none⟩, ⟨"api-url", none, some .text⟩, ⟨"timeout", none, some .natural⟩]
    | _ => []) ++ [verboseOpt, helpOpt]

def subcommandsOf (path : List String) : List String :=
  match path with
  | [] => ["new", "providers", "search", "auth", "config", "session", "help"]
  | ["session"] => ["show", "clear", "help"]
  | _ => []

def operandsOf (path : List String) : Nat := if path = ["search"] then 4 else 0

/-- The value of decimal digits, if there is nothing else. -/
def digits? (cs : List Char) : Option Nat :=
  if cs ≠ [] ∧ cs.all Char.isDigit then some (cs.foldl (fun n c => n * 10 + (c.toNat - 48)) 0) else none

/-- A number of 64 bits: decimal digits, perhaps behind a plus sign. -/
def word64? (s : String) : Option UInt64 :=
  let digits := match s.toList with
    | '+' :: rest => digits? rest
    | cs => digits? cs
  match digits with
  | some n => if n < UInt64.size then some (UInt64.ofNat n) else none
  | none => none

def ValueKind.accepts : ValueKind → String → Bool
  | .text, _ => true
  | .natural, s => (word64? s).isSome

/-- What the words so far have said. -/
structure Scan where
  /-- The subcommands entered. -/
  path : List String
  /-- Whether a command further out was asked to be verbose. -/
  verbose : Bool
  /-- The options of the current command with their values. -/
  given : List (Opt × String)
  /-- The last option with a value, and that value once it is there. -/
  pending : Option (Opt × Option String)
  operands : List String
  /-- Whether only operands follow. -/
  trailing : Bool
  /-- Whether the words only name the command to be explained. -/
  explaining : Bool

namespace Scan

def start : Scan := ⟨[], false, [], none, [], false, false⟩

def has (s : Scan) (name : String) : Bool := s.given.any (fun (o, _) => o.name == name)

def value? (s : Scan) (name : String) : Option String :=
  (s.given.find? (fun (o, _) => o.name == name)).map Prod.snd

/-- Records an option with its value; twice is once too often. -/
def record (o : Opt) (value : String) (s : Scan) : Except UsageError Scan :=
  if s.has o.name then .error .conflict
  else if (o.value.map (fun k => k.accepts value)).getD true then
    .ok { s with given := s.given ++ [(o, value)] }
  else .error .badValue

/-- Checks and records the pending option. -/
def settle (s : Scan) : Except UsageError Scan :=
  match s.pending with
  | none => .ok s
  | some (_, none) => .error .missingValue
  | some (o, some value) => record o value { s with pending := none }

def flag (o : Opt) (s : Scan) : Except UsageError Scan := do
  let s ← s.settle
  if o = helpOpt then throw .help
  s.record o ""

def letters : List Char → Scan → Except UsageError Scan
  | [], s => .ok s
  | c :: rest, s =>
    match (optionsOf s.path).find? (fun o => o.letter == some c) with
    | some o => do letters rest (← s.flag o)
    | none => .error .unknownArgument

/-- Takes in an option by its long name, with the value attached to it if there is one. -/
def long (name : String) (attached : Option String) (s : Scan) : Except UsageError Scan :=
  match (optionsOf s.path).find? (fun o => o.name == name) with
  | none => .error .unknownArgument
  | some o =>
    match o.value, attached with
    | none, none => s.flag o
    | none, some _ => .error .tooManyValues
    | some _, some value => do (← s.settle).record o value
    | some _, none => do return { ← s.settle with pending := some (o, none) }

def operand (word : String) (s : Scan) : Except UsageError Scan :=
  if s.operands.length < operandsOf s.path then do
    let s ← s.settle
    return { s with operands := s.operands ++ [word] }
  else if s.trailing ∧ word ∈ subcommandsOf s.path then .error .unknownArgument
  else if subcommandsOf s.path ≠ [] then .error .invalidSubcommand
  else .error .unknownArgument

def enter (name : String) (s : Scan) : Scan :=
  if name = "help" then { s with explaining := true }
  else { start with path := s.path ++ [name], verbose := s.verbose || s.has verboseOpt.name }

def awaiting? (s : Scan) : Option Opt :=
  match s.pending with
  | some (o, none) => some o
  | _ => none

/-- Takes in a word that may be an option. -/
def plainWord (word : String) (s : Scan) : Except UsageError Scan :=
  match word.toList with
  | ['-', '-'] => .ok { s with trailing := true }
  | '-' :: '-' :: name =>
    match Text.splitFirst? '=' name with
    | some (name, value) => s.long (String.ofList name) (some (String.ofList value))
    | none => s.long (String.ofList name) none
  | '-' :: c :: cs => s.letters (c :: cs)
  | _ =>
    match s.awaiting? with
    | some o => .ok { s with pending := some (o, some word) }
    | none => s.operand word

def step (s : Scan) (word : String) : Except UsageError Scan :=
  if s.explaining then
    if word ∈ subcommandsOf s.path then .ok { s with path := s.path ++ [word] }
    else .error .invalidSubcommand
  else if s.trailing then s.operand word
  else if s.awaiting?.isNone ∧ word ∈ subcommandsOf s.path then .ok (s.enter word)
  else s.plainWord word

def command (s : Scan) : Except UsageError (Option Command) :=
  match s.path, s.operands with
  | [], _ => .ok none
  | ["new"], _ => .ok (some .desk)
  | ["providers"], _ => .ok (some .providers)
  | ["search"], [provider, template, field, start] =>
    .ok (some (.search ⟨provider, template, field, start⟩))
  | ["search"], _ => .error .missingArgument
  | ["auth"], _ => .ok (some (.auth (s.has "csrf")))
  | ["config"], _ =>
    .ok (some (.config (s.has "show") (s.value? "api-url") ((s.value? "timeout").bind word64?)))
  | ["session"], _ => .error (if s.given.isEmpty then .helpOnMissing else .missingSubcommand)
  | ["session", "show"], _ => .ok (some (.session .list))
  | ["session", "clear"], _ => .ok (some (.session .clear))
  | _, _ => .error .invalidSubcommand

def finish (s : Scan) : Except UsageError Invocation := do
  let s ← s.settle
  if s.explaining then throw .help
  return ⟨s.verbose || s.has verboseOpt.name, ← s.command⟩

end Scan

def read (words : List String) : Except UsageError Invocation := do
  (← words.foldlM Scan.step Scan.start).finish

end ChangeDesk.Arguments
