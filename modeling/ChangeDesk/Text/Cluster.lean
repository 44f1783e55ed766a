import ChangeDesk.Text.Table

/-!
Characters as they are seen: how they are quoted in messages, the clusters that are seen as one, and the cells
that these take. A class of code points is given by the sorted list of points at which membership changes: a
code point is a member when an odd number of these points are at or below it.
-/

namespace ChangeDesk.Text

/-- The number of points of a sorted array that are at or below `n`, between `low` and `high`. -/
def countBelow (points : Array Nat) (n : Nat) : Nat → Nat → Nat → Nat
  | 0, low, _ => low
  | fuel + 1, low, high =>
    if low < high then
      let mid := (low + high) / 2
      if points.getD mid 0 ≤ n then countBelow points n fuel (mid + 1) high
      else countBelow points n fuel low mid
    else low

/-- Whether a character belongs to the class with these points of change. -/
def inClass (points : Array Nat) (c : Char) : Bool :=
  countBelow points c.toNat (points.size.log2 + 2) 0 points.size % 2 == 1

/-!
## Quoted text

Quoted text for messages: between double quotes, with an escape for every character that would not be seen as
itself, namely quotes, backslashes, unprintable characters and combining marks.
-/

def hexDigits (n : Nat) : List Char := Nat.toDigits 16 n

def quotedChar (c : Char) : List Char :=
  if c = '\x00' then ['\\', '0']
  else if c = '\t' then ['\\', 't']
  else if c = '\r' then ['\\', 'r']
  else if c = '\n' then ['\\', 'n']
  else if c = '"' then ['\\', '"']
  else if c = '\\' then ['\\', '\\']
  else if ' ' ≤ c ∧ c ≤ '~' then [c]
  else if inClass Table.graphemeExtend c || inClass Table.unprintable c then
    ['\\', 'u', '\x7b'] ++ hexDigits c.toNat ++ ['\x7d']
  else [c]

def quoted (s : String) : String :=
  String.ofList ('"' :: (s.toList.flatMap quotedChar ++ ['"']))

/-!
## Clusters

The user-perceived characters of a text: its extended grapheme clusters. Whether a cluster goes on with the
next character depends on the class of the character before, and on what the cluster has seen of flags, of
pictographs and of conjuncts. Joining the clusters of a text gives the text back.
-/

inductive BreakClass where
  | carriageReturn
  | lineFeed
  | control
  | extend
  | joiner
  | prepended
  | spacing
  | leadingJamo
  | vowelJamo
  | trailingJamo
  /-- A syllable of a leading consonant and a vowel. -/
  | openSyllable
  /-- A syllable that a trailing consonant closes. -/
  | closedSyllable
  | flag
  | pictograph
  | other
deriving DecidableEq, Repr

def between (low high n : Nat) : Bool := low ≤ n && n ≤ high

def koreanClass? (n : Nat) : Option BreakClass :=
  if between 0x1100 0x115F n || between 0xA960 0xA97C n then some .leadingJamo
  else if between 0x1160 0x11A7 n || between 0xD7B0 0xD7C6 n then some .vowelJamo
  else if between 0x11A8 0x11FF n || between 0xD7CB 0xD7FB n then some .trailingJamo
  -- of the 28 syllables that begin alike, the first has no trailing consonant
  else if between 0xAC00 0xD7A3 n then
    some (if (n - 0xAC00) % 28 = 0 then .openSyllable else .closedSyllable)
  else none

/-- The letters of which two make a flag. -/
def isFlagLetter (c : Char) : Bool := between 0x1F1E6 0x1F1FF c.toNat

/-- The modifiers of the colour of skin. -/
def isSkinTone (c : Char) : Bool := between 0x1F3FB 0x1F3FF c.toNat

def zeroWidthJoiner : Char := '\u200d'

def breakClass (c : Char) : BreakClass :=
  if between 0x20 0x7E c.toNat then .other
  else if c = '\r' then .carriageReturn
  else if c = '\n' then .lineFeed
  else if c = zeroWidthJoiner then .joiner
  else if inClass Table.control c then .control
  else if inClass Table.graphemeExtend c || isSkinTone c then .extend
  else if inClass Table.prepended c then .prepended
  else if inClass Table.spacing c then .spacing
  else if isFlagLetter c then .flag
  else if inClass Table.pictographic c then .pictograph
  else (koreanClass? c.toNat).getD .other

/-- The signs that join two consonants of their script into a conjunct. -/
def isConjunctLinker (c : Char) : Bool :=
  [0x94D, 0x9CD, 0xACD, 0xB4D, 0xC4D, 0xD4D].contains c.toNat

/-- How far a cluster has come towards a conjunct. -/
inductive Conjunct where
  | none
  | consonant
  | linked
deriving DecidableEq, Repr

/-- How far a cluster has come towards a joined pictograph. -/
inductive Picture where
  | none
  /-- A pictograph and what extends it. -/
  | shown
  /-- The same with a joiner at the end. -/
  | joined
deriving DecidableEq, Repr

/-- What the boundary rules need to know of the characters so far. -/
structure ClusterState where
  last : BreakClass
  /-- Whether the cluster ends in a flag letter that still lacks its second. -/
  halfFlag : Bool
  picture : Picture
  conjunct : Conjunct
deriving DecidableEq, Repr

namespace ClusterState

def next (s : ClusterState) (c : Char) : ClusterState :=
  let cls := breakClass c
  let conjunct :=
    if inClass Table.conjunctConsonant c then .consonant
    else if isConjunctLinker c then (if s.conjunct = .none then .none else .linked)
    else if cls = .extend ∨ cls = .joiner then s.conjunct
    else .none
  let picture :=
    match cls with
    | .pictograph => .shown
    | .extend => if s.picture = .shown then .shown else .none
    | .joiner => if s.picture = .shown then .joined else .none
    | _ => .none
  -- flag letters pair up from the first one on
  ⟨cls, cls = .flag ∧ ¬ s.halfFlag, picture, conjunct⟩

def start : ClusterState := ⟨.control, false, .none, .none⟩

/-- Whether a line or a control ends at this class. -/
def isBreaking (cls : BreakClass) : Bool :=
  cls == .carriageReturn || cls == .lineFeed || cls == .control

def joinsSyllable : BreakClass → BreakClass → Bool
  | .leadingJamo, .leadingJamo => true
  | .leadingJamo, .vowelJamo => true
  | .leadingJamo, .openSyllable => true
  | .leadingJamo, .closedSyllable => true
  | .openSyllable, .vowelJamo => true
  | .openSyllable, .trailingJamo => true
  | .vowelJamo, .vowelJamo => true
  | .vowelJamo, .trailingJamo => true
  | .closedSyllable, .trailingJamo => true
  | .trailingJamo, .trailingJamo => true
  | _, _ => false

def joins (s : ClusterState) (c : Char) : Bool :=
  let cls := breakClass c
  if s.last = .carriageReturn ∧ cls = .lineFeed then true
  else if isBreaking s.last || isBreaking cls then false
  else joinsSyllable s.last cls || cls == .extend || cls == .joiner || cls == .spacing ||
    s.last == .prepended ||
    (s.conjunct == .linked && inClass Table.conjunctConsonant c) ||
    (s.picture == .joined && cls == .pictograph) ||
    (s.halfFlag && cls == .flag)

end ClusterState

/-- The clusters of a text whose first cluster has begun with `current`, last character first. -/
def clustersFrom (s : ClusterState) (current : List Char) : List Char → List (List Char)
  | [] => [current.reverse]
  | c :: rest =>
    if s.joins c then clustersFrom (s.next c) (c :: current) rest
    else current.reverse :: clustersFrom (s.next c) [c] rest

def clusters : List Char → List (List Char)
  | [] => []
  | c :: rest => clustersFrom (ClusterState.start.next c) [c] rest

theorem flatten_clustersFrom (s : ClusterState) (current cs : List Char) :
    (clustersFrom s current cs).flatten = current.reverse ++ cs := by
  induction cs generalizing s current with
  | nil => simp [clustersFrom]
  | cons c rest ih =>
    unfold clustersFrom
    split <;> simp [ih]

theorem flatten_clusters (cs : List Char) : (clusters cs).flatten = cs := by
  cases cs with
  | nil => rfl
  | cons c rest => simp [clusters, flatten_clustersFrom]

/-!
## Widths

How many cells a text takes on a grid of characters. Wide characters take two, marks none, and all others one,
controls included. Pictures that are made of several characters take two cells altogether.
-/

def charWidth (c : Char) : Nat :=
  let n := c.toNat
  if n < 0xA9 ∨ n = 0x2D7F then 1
  else if n = 0x115F ∨ n = 0x17A4 then 2
  else if n = 0x17D8 then 3
  else if inClass Table.zeroWidth c then 0
  else if inClass Table.wide c then 2
  else 1

/-- The selector that asks for the coloured form of a picture. -/
def pictureSelector : Char := '\ufe0f'

/-- The selector that asks for the plain form of a picture. -/
def plainSelector : Char := '\ufe0e'

/-- Whether a cluster is one picture of two cells: an emoji in its coloured form, or a wide one that a skin
tone or a joined picture follows. -/
def isWidePicture : List Char → Bool
  | c :: d :: _ =>
    (inClass Table.emoji c && d == pictureSelector) ||
      (charWidth c == 2 && inClass Table.emoji c && (isSkinTone d || d == zeroWidthJoiner))
  | _ => false

/-- Whether a cluster is a picture in its plain form, of one cell. -/
def isPlainPicture : List Char → Bool
  | [c, d] => inClass Table.plainForm c && d == plainSelector
  | _ => false

def clusterWidth (cluster : List Char) : Nat :=
  if cluster = ['\r', '\n'] then 1
  else if isWidePicture cluster then 2
  else if isPlainPicture cluster then 1
  else cluster.foldr (fun c n => charWidth c + n) 0

def width (cs : List Char) : Nat := (clusters cs).foldr (fun c n => clusterWidth c + n) 0

end ChangeDesk.Text
