import TupleRecord.Declaration.Attributes
import TupleRecord.Declaration.DefaultType

/-!
The template that a declaration describes: one field per member that is not skipped, in order.
A template that is read from a declaration is valid.
-/
namespace TupleRecord

namespace Declaration

/-- The type of a field: the one it is marked with, or else the default of its member's type. -/
def MemberMarks.fieldType (m : MemberMarks) (type : TypeExpr) : Except Error FieldType :=
  match m.java, m.enumeration with
  | some name, _ => (FieldType.parse name).mapError .type
  | none, some name =>
    match FieldType.parse name with
    | .ok (.object className) => .ok (.enumeration className)
    | _ => .error (.notEnumeration name)
  | none, none =>
    match type.fieldType? with
    | some fieldType => .ok fieldType
    | none => .error .noDefaultType

/-- The field of a member, unless it is skipped. -/
def Member.field (r : AttributeReader) (m : Member) : Except Error (Option Field) := do
  let marks ← MemberMarks.read r m.attributes
  if marks.skip then return none
  else
    let type ← marks.fieldType m.type
    return some ⟨marks.rename.getD (Name.camelCase m.name), type, docOf m.attributes⟩

/-- The members of a struct that names them. -/
def Shape.members : Shape → Except Error (List Member)
  | named members => .ok members
  | positional => .error .notNamed
  | unit => .error .notNamed
  | enumeration => .error .notStruct
  | union => .error .notStruct

end Declaration

def Declaration.template (d : Declaration) (r : AttributeReader) :
    Except Declaration.Error Template := do
  let members ← d.shape.members
  let marks ← ContainerMarks.read r d.attributes
  let fields ← members.mapM (Member.field r)
  let template : Template :=
    ⟨marks.package.getD [], marks.name.getD d.name, fields.filterMap id⟩
  template.validate.mapError .template
  return template

end TupleRecord
