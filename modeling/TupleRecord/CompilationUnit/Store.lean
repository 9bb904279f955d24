import TupleRecord.CompilationUnit.Basic
import TupleRecord.FileTree

/-!
Storing compilation units below a source root. A file that already holds the source is left as
it is, so that nothing downstream is built again.
-/
namespace TupleRecord

/-- Where a unit was stored, and whether the file had to be written. -/
structure Stored where
  path : Text
  written : Bool
  deriving DecidableEq, Repr

inductive StoreError where
  | recordClass (error : RecordClass.Error)
  | notWritable
  deriving DecidableEq, Repr

/-- What the file of a unit holds. -/
def CompilationUnit.content (u : CompilationUnit) : Bytes := Text.bytes u.source

/-- Stores a unit at its path below a folder, or below the root if no folder is named. -/
def CompilationUnit.store (u : CompilationUnit) (t : FileTree) (dir : Text := []) :
    Except StoreError Stored × FileTree :=
  let path := extendPath dir u.path
  if t.read? path = some u.content then (.ok ⟨path, false⟩, t)
  else
    match t.write path u.content with
    | (t, true) => (.ok ⟨path, true⟩, t)
    | (t, false) => (.error .notWritable, t)

/-- Generates the unit of a template by the default settings and stores it. -/
def Template.generateInto (template : Template) (t : FileTree) (dir : Text := []) :
    Except StoreError Stored × FileTree :=
  match CompilationUnit.generate {} template with
  | .error e => (.error (.recordClass e), t)
  | .ok u => u.store t dir

end TupleRecord
