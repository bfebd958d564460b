import Mailroom.Text.Find

/-!
# File trees

The files that the service reads: locale documents, templates, settings and images. A tree is a
finite map from paths to files and folders. A path is given as text and read relative to the root
of the tree; the name of the root stands in front of it wherever a path is shown.
-/

namespace Mailroom.Files

/-- The names on the way from the root. -/
abbrev Path := List String

/-- The path that a text stands for. Empty names and single dots are passed over, and two dots
lead back to the folder above. -/
def Path.ofText (text : String) : Path :=
  ((Text.splitAt '/' text.toList).map String.ofList).foldl (fun path name =>
    if name = "" ∨ name = "." then path
    else if name = ".." then path.dropLast
    else path ++ [name]) []

/-- The paths of the folders above a path, the root first. -/
def Path.above (path : Path) : List Path := (List.range path.length).map path.take

/-- What stands at a path. -/
inductive Node where
  | file (content : ByteArray)
  | folder

/-- Why a file cannot be read. -/
inductive ReadFault where
  | missing | underFile | isFolder | notText
deriving DecidableEq, Repr

/-- The wording of a fault. -/
def ReadFault.message : ReadFault → String
  | .missing => "No such file or directory (os error 2)"
  | .underFile => "Not a directory (os error 20)"
  | .isFolder => "Is a directory (os error 21)"
  | .notText => "stream did not contain valid UTF-8"

/-- A name and what follows it, as in `dir/name`. -/
def join (dir name : String) : String :=
  if dir = "" ∨ dir.endsWith "/" then dir ++ name else dir ++ "/" ++ name

/-- The part of a file name before its last dot and the part behind it. A dot at the front of a
name begins no second part. -/
def splitExtension (name : String) : String × Option String :=
  let (behind, before) := (name.toList.reverse.takeWhile (· != '.'),
    name.toList.reverse.dropWhile (· != '.'))
  match before with
  | _ :: rest@(_ :: _) => (String.ofList rest.reverse, some (String.ofList behind.reverse))
  | _ => (name, none)

/-- A tree of files. -/
structure Tree where
  /-- What is shown in front of a path. -/
  root : String := ""
  nodes : List (Path × Node) := []

namespace Tree

/-- A path as it is shown. -/
def shown (t : Tree) (path : String) : String := t.root ++ path

/-- What stands at a path. -/
def find? (t : Tree) (path : Path) : Option Node :=
  if path.isEmpty then some .folder else t.nodes.lookup path

/-- Whether a file stands at a path. -/
def isFile (t : Tree) (path : String) : Bool :=
  match t.find? (Path.ofText path) with
  | some (.file _) => true
  | _ => false

/-- Whether a folder stands at a path. -/
def isFolder (t : Tree) (path : String) : Bool :=
  match t.find? (Path.ofText path) with
  | some .folder => true
  | _ => false

/-- Whether a path leads through a file. -/
def leadsThroughFile (t : Tree) (path : Path) : Bool :=
  path.above.any fun p =>
    match t.find? p with
    | some (.file _) => true
    | _ => false

/-- The content of a file. -/
def read (t : Tree) (path : String) : Except ReadFault ByteArray :=
  match t.find? (Path.ofText path) with
  | some (.file content) => .ok content
  | some .folder => .error .isFolder
  | none =>
    if t.leadsThroughFile (Path.ofText path) then .error .underFile else .error .missing

/-- The content of a file as text. -/
def readText (t : Tree) (path : String) : Except ReadFault String := do
  match String.fromUTF8? (← t.read path) with
  | some text => .ok text
  | none => .error .notText

/-- The names in a folder, in the order of the names. -/
def names (t : Tree) (path : String) : List String :=
  let dir := Path.ofText path
  (t.nodes.filterMap fun (p, _) =>
    if p.dropLast = dir ∧ p ≠ [] then p.getLast? else none).mergeSort fun a b => decide (a ≤ b)

/-- Put a node in its place; a node at the same path gives way. -/
def put (t : Tree) (path : Path) (node : Node) : Tree :=
  { t with nodes := (path, node) :: t.nodes.filter fun n => n.1 != path }

/-- Make a folder and every folder above it that is not there yet. -/
def makeFolder (t : Tree) (path : Path) : Tree :=
  (path.above ++ [path]).foldl (fun t p => if (t.find? p).isSome then t else t.put p .folder) t

/-- Write a file, and make the folders above it. -/
def write (t : Tree) (path : String) (content : ByteArray) : Tree :=
  let p := Path.ofText path
  (t.makeFolder p.dropLast).put p (.file content)

/-- Remove a file, or a folder with all that is in it. -/
def remove (t : Tree) (path : String) : Tree :=
  let p := Path.ofText path
  { t with nodes := t.nodes.filter fun n => !p.isPrefixOf n.1 }

end Tree

end Mailroom.Files
