import TupleRecord.Declaration.AttributeReader
import TupleRecord.Text.Lines

/-!
What the attributes of a declaration say. Several attributes add up, a later value of a key
replaces an earlier one, and the first argument that makes no sense is the error. Attributes of
other names do not count, except the documentation.
-/
namespace TupleRecord.Declaration

/-- The name of the attributes that are read here. -/
def attributeName : Text := "datum"

/-- Reads all attributes of the name, in order, each from what was found in those before it. -/
def readAttributes {α : Type} (r : AttributeReader) (effect : α → Text → Except Error (Effect α))
    (initial : α) (attributes : List Attribute) : Except Error α :=
  (attributes.filter (·.path == attributeName)).foldlM
    (fun found a => r.read effect found a.form) initial

/-- What the attributes of a struct say of the template. -/
structure ContainerMarks where
  package : Option Text := none
  name : Option Text := none
  deriving DecidableEq, Repr

namespace ContainerMarks

def effect (m : ContainerMarks) (key : Text) : Except Error (Effect ContainerMarks) :=
  if key = "package" then .ok (.text fun value => { m with package := some value })
  else if key = "name" then .ok (.text fun value => { m with name := some value })
  else .error (.unknownKey .container key)

def read (r : AttributeReader) (attributes : List Attribute) : Except Error ContainerMarks :=
  readAttributes r effect {} attributes

end ContainerMarks

/-- What the attributes of a member say of the field. -/
structure MemberMarks where
  java : Option Text := none
  enumeration : Option Text := none
  rename : Option Text := none
  skip : Bool := false
  deriving DecidableEq, Repr

namespace MemberMarks

def effect (m : MemberMarks) (key : Text) : Except Error (Effect MemberMarks) :=
  if key = "java" then .ok (.text fun value => { m with java := some value })
  else if key = "enumeration" then .ok (.text fun value => { m with enumeration := some value })
  else if key = "rename" then .ok (.text fun value => { m with rename := some value })
  else if key = "skip" then .ok (.mark { m with skip := true })
  else .error (.unknownKey .member key)

/-- A type must not be given twice, which shows only when all attributes are read. -/
def read (r : AttributeReader) (attributes : List Attribute) : Except Error MemberMarks := do
  let marks ← readAttributes r effect {} attributes
  if marks.java.isSome && marks.enumeration.isSome then .error .twoTypes
  else .ok marks

end MemberMarks

/-- The text of a line of documentation. -/
def Attribute.docLine? (a : Attribute) : Option Text :=
  match a.form with
  | .value [.text line] => if a.path = "doc" then some line else none
  | _ => none

/-- The documentation of a member: its lines, each without the space that sets it off, and
nothing if they are blank. -/
def docOf (attributes : List Attribute) : Option Text :=
  let lines := (attributes.filterMap Attribute.docLine?).map fun line =>
    (Text.dropStart? " " line).getD line
  let doc := Text.trim (List.intercalate ['\n'] lines)
  if doc = [] then none else some doc

end TupleRecord.Declaration
