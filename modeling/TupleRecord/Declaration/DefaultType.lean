import TupleRecord.Declaration.Basic
import TupleRecord.FieldType

/-!
The field types that the types of members stand for by default. Only the last segment of a path
counts, so a type may be named with or without its module.
-/
namespace TupleRecord.Declaration

/-- The scalar types of the host program that have a primitive type. -/
def scalar? (name : Text) : Option Primitive :=
  if name = "bool" then some .boolean
  else if name = "i16" then some .short
  else if name = "i32" then some .int
  else if name = "i64" then some .long
  else if name = "f32" then some .float
  else if name = "f64" then some .double
  else none

/-- The field type of a type without arguments. -/
def plainType? (name : Text) : Option FieldType :=
  if name = "String" then some .string
  else if name = "Uuid" then some .uuid
  else if name = "SystemTime" then some .date
  else (scalar? name).map .primitive

/-- The field type of an optional value of a field type: only a box or a string can be absent. -/
def optionalType? : FieldType → Option FieldType
  | .primitive p => some (.boxed p)
  | .string => some .string
  | _ => none

/-- The field type of a list of values of a field type. -/
def listType? : FieldType → Option FieldType
  | .string => some (.array FieldType.string.jvmName)
  | _ => none

def TypeExpr.fieldType? : TypeExpr → Option FieldType
  | .path none _ _ (.mk name none) => plainType? name
  | .path none _ _ (.mk name (some [.type argument])) =>
    if name = "Option" then argument.fieldType?.bind optionalType?
    else if name = "Vec" then argument.fieldType?.bind listType?
    else none
  | _ => none

end TupleRecord.Declaration
