import TupleRecord.RecordClass.Source

/-!
Compilation units: the source of one record class, with its name. `CompilationUnit.generate`
makes the unit of a template, and depends on the template and the settings alone.
-/
namespace TupleRecord

structure CompilationUnit where
  package : Text
  className : Text
  source : Text
  deriving DecidableEq, Repr

def RecordClass.unit (c : RecordClass) (s : Settings) : CompilationUnit :=
  ⟨c.package, c.name, c.source s⟩

/-- A path with a part added behind a slash. A part that begins at the root replaces the path. -/
def extendPath (path part : Text) : Text :=
  if part.head? = some '/' then part
  else if path = [] ∨ path.getLast? = some '/' then path ++ part
  else path ++ "/" ++ part

namespace CompilationUnit

def generate (s : Settings) (t : Template) : Except RecordClass.Error CompilationUnit := do
  return (← RecordClass.ofTemplate s t).unit s

def qualifiedName (u : CompilationUnit) : Text := qualify u.package u.className

def fileName (u : CompilationUnit) : Text := u.className ++ ".java"

/-- Where the unit belongs below a source root: a folder per segment of its package. -/
def path (u : CompilationUnit) : Text :=
  extendPath (((Text.split '.' u.package).filter (· ≠ [])).foldl extendPath []) u.fileName

end CompilationUnit
end TupleRecord
