import TupleRecord.Text

/-!
A tree of files and folders below one root. `FileTree.lookup` is what stands at a place; the
operations walk a path from the root name by name, as a file system does, and fail where a name
on the way is not a folder. There are no links, permissions or limits. A file holds any bytes, of a
text or not.
-/
namespace TupleRecord

abbrev Bytes := List UInt8

/-- The bytes of a text in UTF-8. -/
def Text.bytes (t : Text) : Bytes := t.flatMap String.utf8EncodeChar

inductive Entry where
  | file (content : Bytes)
  | folder
  deriving DecidableEq, Repr

/-- The names on the way from the root. -/
abbrev Place := List Text

structure FileTree where
  entries : List (Place × Entry)
  deriving DecidableEq, Repr

namespace FileTree

def empty : FileTree := ⟨[]⟩

/-- The entry at a place; the root is always a folder. -/
def lookup (t : FileTree) (p : Place) : Option Entry :=
  if p = [] then some .folder else t.entries.lookup p

def set (t : FileTree) (p : Place) (e : Entry) : FileTree :=
  ⟨(p, e) :: t.entries.filter (·.1 != p)⟩

/-- The names of a path, empty ones included. -/
def route (path : Text) : List Text := Text.split '/' path

/-- Where a name leads from a folder. The empty name and `.` stay, and `..` goes up. -/
def follow (here : Place) (name : Text) : Place :=
  if name = [] ∨ name = "." then here
  else if name = ".." then here.dropLast
  else here ++ [name]

/-- No entry can have a name that contains the null character. -/
def isStorable (route : List Text) : Bool := route.all fun name => !name.contains '\x00'

/-- The place at the end of a route that leads through folders alone. -/
def walk? (t : FileTree) (here : Place) : List Text → Option Place
  | [] => some here
  | name :: rest =>
    if t.lookup here = some .folder then t.walk? (follow here name) rest else none

def read? (t : FileTree) (path : Text) : Option Bytes := do
  match t.lookup (← t.walk? [] (route path)) with
  | some (.file content) => some content
  | _ => none

/-- Walks a route and makes the folders that are missing on it. The place is where it ends, and
is absent if a file is in the way. -/
def makeRoute (t : FileTree) (here : Place) : List Text → FileTree × Option Place
  | [] => (t, some here)
  | name :: rest =>
    let there := follow here name
    match t.lookup there with
    | some .folder => t.makeRoute there rest
    | some (.file _) => (t, none)
    | none => (t.set there .folder).makeRoute there rest

def makeFolders (t : FileTree) (path : Text) : FileTree × Option Place :=
  let names := route path
  if isStorable names then t.makeRoute [] names else (t, none)

/-- Puts content at a place, for which no folder must stand there. -/
def writeAt (t : FileTree) (p : Place) (content : Bytes) : FileTree × Bool :=
  if t.lookup p = some .folder ∨ !isStorable p then (t, false)
  else (t.set p (.file content), true)

/-- The folder of a path and its last name. -/
def parentAndName (path : Text) : Text × Text :=
  ((path.reverse.dropWhile (· != '/')).reverse, Text.afterLast '/' path)

/-- Puts content at a path, with the folders that are missing on the way. The flag tells if the
content is there now; folders that were made stay. -/
def write (t : FileTree) (path : Text) (content : Bytes) : FileTree × Bool :=
  let (parent, name) := parentAndName path
  match t.makeFolders parent with
  | (t, none) => (t, false)
  | (t, some folder) => t.writeAt (folder ++ [name]) content

/-- The path of an entry from the root. Folders have a slash at the end. -/
def entryPath : Place × Entry → Text
  | (p, .file _) => List.intercalate "/" p
  | (p, .folder) => List.intercalate "/" p ++ "/"

/-- The paths of all entries, in the order of their characters. -/
def paths (t : FileTree) : List Text :=
  (t.entries.map entryPath).mergeSort fun a b => !decide (b < a)

end FileTree
end TupleRecord
