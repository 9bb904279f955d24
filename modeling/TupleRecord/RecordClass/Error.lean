import TupleRecord.Storage

/-!
Why there is no record class for a template: the template is invalid, a field cannot be stored,
or the names involved would not compile together.
-/
namespace TupleRecord.RecordClass

/-- Names that would not compile together, although each is fine by itself. -/
inductive NamingFault where
  | invalidBase (baseRecord : Text)
  | extendsItself (className : Text)
  | importedName (className : Text)
  | hidesFields (field : Text)
  | overridesGetClass (field : Text)
  | repeatsConstructor (field type : Text)
  deriving DecidableEq, Repr

def NamingFault.message : NamingFault → Text
  | invalidBase baseRecord => "invalid base record class '" ++ baseRecord ++ "'"
  | extendsItself className =>
    "class " ++ className ++ " cannot extend a base record of the same name"
  | importedName className =>
    "class name " ++ className ++ " clashes with an imported tuple type"
  | hidesFields field =>
    "field '" ++ field ++ "' shadows the " ++ Tuple.fieldsConstant ++ " constant"
  | overridesGetClass field =>
    "field '" ++ field ++ "' would override the final Object.getClass()"
  | repeatsConstructor field type =>
    "single field '" ++ field ++ "' of type " ++ type ++ " clashes with the " ++ type ++
      " constructor"

inductive Error where
  | template (error : TemplateError)
  | storage (error : StorageError)
  | naming (fault : NamingFault)
  deriving DecidableEq, Repr

def Error.message : Error → Text
  | template error => "template error: " ++ error.message
  | storage error => error.message
  | naming fault => "generation error: " ++ fault.message

end TupleRecord.RecordClass
