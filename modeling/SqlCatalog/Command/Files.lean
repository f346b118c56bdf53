import SqlCatalog.Command.Run
/-!
# Trees of files

Files in directories, for running commands without a disk. A path is followed
from left to right; `.` stays and `..` goes up.
-/
namespace SqlCatalog.Command

/-- What is at a path. -/
inductive Node
  | file (contents : List UInt8)
  /-- The file of a database with a table. -/
  | database (d : Embedded.Database)
  | directory (entries : List (String × Node))
deriving Inhabited

namespace Node

/-- The bytes that the name of a file can have. -/
def maxComponent : Nat := 255

/-- The bytes that a path can have. -/
def maxPath : Nat := 4095

/-- Follow the components of a path. `parents` are the directories above. -/
def follow : List Node → Node → List String → Except PathError Node
  | _, node, [] => .ok node
  | parents, .directory entries, part :: rest =>
    if maxComponent < part.utf8ByteSize then .error .tooLong
    else if part = "" ∨ part = "." then follow parents (.directory entries) rest
    else if part = ".." then
      match parents with
      | [] => follow [] (.directory []) rest
      | parent :: parents => follow parents parent rest
    else match Entries.find? part entries with
      | none => .error .missing
      | some node => follow (.directory entries :: parents) node rest
  | _, _, _ :: _ => .error .notADirectory

/-- What is at a path. The empty path leads nowhere, and a path from the root of
the file system leaves the tree. -/
def resolve (root : Node) (path : String) : Except PathError Node :=
  if path = "" then .error .missing
  else if path.contains '\x00' then .error .nullInPath
  else if maxPath < path.utf8ByteSize then .error .tooLong
  else match path.splitOn "/" with
    | "" :: rest => follow [] (.directory []) rest
    | parts => follow [] root parts

/-- The text of the file at a path. The file of a database is no text. -/
def readText (root : Node) (path : String) : Except PathError String :=
  match root.resolve path with
  | .error e => .error e
  | .ok (.directory _) => .error .isDirectory
  | .ok (.database _) => .error .notText
  | .ok (.file contents) =>
    match String.fromUTF8? ⟨contents.toArray⟩ with
    | some text => .ok text
    | none => .error .notText

/-- The directory of a path and its last component. -/
def splitLast (path : String) : String × String :=
  let parts := path.splitOn "/"
  let above := "/".intercalate parts.dropLast
  (if parts.length = 1 then "." else above ++ "/", parts.getLast?.getD "")

/-- The database at a path: the one that is there, or a new one in a directory
that exists. A file of one byte counts as empty. -/
def openDatabase (root : Node) (path : String) : Option Embedded.Database :=
  match root.resolve path with
  | .ok (.database d) => some d
  | .ok (.file contents) => some (if contents.length ≤ 1 then .empty else .foreign)
  | .ok (.directory _) => none
  | .error _ =>
    let (above, name) := splitLast path
    match root.resolve above with
    | .ok (.directory _) =>
      if name = "" ∨ maxComponent < name.utf8ByteSize then none else some .empty
    | _ => none

/-- The names on the way to a path, without detours. -/
def names (path : String) : List String :=
  (path.splitOn "/").foldl (fun above part =>
    if part = "" ∨ part = "." then above
    else if part = ".." then above.dropLast
    else above ++ [part]) []

/-- Put a node behind these names, making the directories that are missing. A way
through a file leaves everything as it is. -/
def put (node : Node) : List String → Node → Node
  | [], _ => node
  | name :: rest, .directory entries =>
    let inner := (Entries.find? name entries).getD (.directory [])
    .directory (Entries.insert name (put node rest inner) entries)
  | _, other => other

/-- Put a file at a path. -/
def place (root : Node) (contents : List UInt8) (path : String) : Node :=
  put (.file contents) (names path) root

/-- A tree as the host of a command. -/
def host (root : Node) : Host := ⟨root.readText, root.openDatabase⟩

/-- Keep a database in the file at a path. Without a table it leaves a file as it
is, and an empty one where there was none. -/
def save (root : Node) (path : String) (d : Embedded.Database) : Node :=
  if d.hasTable then put (.database d) (names path) root
  else match root.resolve path with
    | .ok _ => root
    | .error _ => root.place [] path

/-- Run a command line on a tree, and keep the database that it leaves. -/
def execute (root : Node) (args : List String) : Outcome × Node :=
  let outcome := Command.execute args root.host
  match outcome.saved with
  | none => (outcome, root)
  | some (path, d) => (outcome, root.save path d)

end Node

end SqlCatalog.Command
