import TupleRecord.Declaration.Basic
import TupleRecord.Template

/-!
Why a declaration describes no template.
-/
namespace TupleRecord.Declaration

/-- What an attribute stands on. -/
inductive Scope where
  | container
  | member
  deriving DecidableEq, Repr

inductive Error where
  | notStruct
  | notNamed
  /-- An attribute that cannot be read, with what its reader says of it. -/
  | unreadable (message : Text)
  | unknownKey (scope : Scope) (key : Text)
  | twoTypes
  | type (error : TypeError)
  | notEnumeration (name : Text)
  | noDefaultType
  | template (error : TemplateError)
  deriving DecidableEq, Repr

/-- A key as messages show it: a path of several segments is left out. -/
def shownKey (key : Text) : Text := if key.contains ':' then [] else key

def Error.message : Error → Text
  | notStruct => "DatumTemplate can only be derived for structs"
  | notNamed => "DatumTemplate requires a struct with named fields"
  | unreadable message => message
  | unknownKey .container key => "unknown datum attribute: `" ++ shownKey key ++ "`"
  | unknownKey .member key => "unknown datum field attribute: `" ++ shownKey key ++ "`"
  | twoTypes => "`java` and `enumeration` cannot both be set"
  | type error => error.message
  | notEnumeration name => "`" ++ name ++ "` is not an enum type name"
  | noDefaultType => "no default JVM type for this field; add #[datum(java = \"...\")]"
  | template error => "invalid datum template: " ++ error.message

end TupleRecord.Declaration
