import ChangeDesk.SortedMap
import ChangeDesk.Text.Basic

/-!
A disk: directories and files of text at places below the root. A path is followed component by component,
and going on from anything but a directory fails.
-/
namespace ChangeDesk

inductive Disk.Node where
  | directory
  | file (content : String)
deriving DecidableEq, Repr

/-- What stands at each place. The root is always a directory. -/
structure Disk where
  nodes : SortedMap Disk.Node

namespace Disk

/-- The components on the way from the root. -/
abbrev Place := List String

def Place.path (p : Place) : String := "/" ++ String.intercalate "/" p

def empty : Disk := ⟨.empty⟩

def node? (d : Disk) (p : Place) : Option Node :=
  if p = [] then some .directory else d.nodes.get? p.path

def isDirectory (d : Disk) (p : Place) : Bool := d.node? p == some .directory

def put (d : Disk) (p : Place) (n : Node) : Disk :=
  if p = [] then d else ⟨d.nodes.insert p.path n⟩

def next (p : Place) (component : List Char) : Place :=
  if Text.Path.isVoid component then p
  else if component = ['.', '.'] then p.dropLast
  else p ++ [String.ofList component]

/-- Goes one component on from a directory. -/
def step? (d : Disk) (p : Place) (component : List Char) : Option Place :=
  if d.isDirectory p then some (next p component) else none

/-- Goes one component on, making the directory to which it leads if nothing is there. -/
def makeStep? (here : Disk × Place) (component : List Char) : Option (Disk × Place) :=
  let p := next here.2 component
  match here.1.node? p with
  | some .directory => some (here.1, p)
  | some (.file _) => none
  | none => some (here.1.put p .directory, p)

def start (directory : Place) (path : String) : Place × List (List Char) :=
  (if Text.Path.isAbsolute path then [] else directory, Text.splitAll '/' path.toList)

/-- The place of an absolute path, taken by its words alone. -/
def placeOf (path : String) : Place := (Text.splitAll '/' path.toList).foldl next []

def find? (d : Disk) (directory : Place) (path : String) : Option Place :=
  if path.isEmpty then none
  else
    let (first, components) := start directory path
    components.foldlM d.step? first

def holds (d : Disk) (directory : Place) (path : String) : Bool :=
  ((d.find? directory path).bind d.node?).isSome

/-- The disk with all directories of a path; none if something else is in the way. -/
def withDirectories? (d : Disk) (directory : Place) (path : String) : Option Disk :=
  let (first, components) := start directory path
  (components.foldlM makeStep? (d, first)).map (·.1)

def content? (d : Disk) (directory : Place) (path : String) : Option String :=
  match (d.find? directory path).bind d.node? with
  | some (.file content) => some content
  | _ => none

/-- The disk with a content in the file that a path names; none where a directory stands, or nothing could
stand. -/
def write? (d : Disk) (directory : Place) (path content : String) : Option Disk := do
  let p ← d.find? directory path
  if d.isDirectory p then none else some (d.put p (.file content))

theorem node?_put_self {d : Disk} {p : Place} (h : p ≠ []) (n : Node) : (d.put p n).node? p = some n := by
  simp [put, node?, h, SortedMap.get?_insert]

end Disk

end ChangeDesk
