import TupleRecord.Java.Method
import TupleRecord.RecordClass.Basic

/-!
The constructors and accessors of a record class. A record is made empty, around a tuple, around
an entry, or from one value per field; each field has a setter and a getter that pass its value
through its storage.
-/
namespace TupleRecord

open Java

namespace Storage

/-- Copies the nested tuple that `loaded` denotes into a new array; no tuple is no array. -/
def unpackTuple (element loaded : Text) : Code :=
  .line ("Tuple tuple = (Tuple)" ++ loaded ++ ";") <|
  .block "if (tuple == null)" (.ofLines ["return null;"]) <|
  .blank <|
  .line (element ++ "[] result = new " ++ element ++ "[tuple.size()];") <|
  .block "for (int i = 0; i < result.length; i++)"
    (.ofLines ["result[i] = (" ++ element ++ ")tuple.getObject(i);"]) <|
  .blank <|
  .ofLines ["return result;"]

/-- The statements that return what `loaded` denotes as a value of the source type. -/
def unpack (sourceType loaded : Text) : Storage → Code
  | nestedTuple element => unpackTuple element loaded
  | ordinal => .ofLines ["return " ++ sourceType ++ ".values()[" ++ loaded ++ "];"]
  | epochMillis => .ofLines ["return new " ++ sourceType ++ "(" ++ loaded ++ ");"]
  | uuidText => .ofLines ["return java.util.UUID.fromString(" ++ loaded ++ ");"]
  | int32 => .ofLines ["return " ++ loaded ++ ";"]
  | int64 => .ofLines ["return " ++ loaded ++ ";"]
  | direct getter =>
    .ofLines ["return " ++ (if getter.needsCast then "(" ++ sourceType ++ ")" else []) ++ loaded ++
      ";"]

end Storage

namespace Column

def param (c : Column) : Param := ⟨c.sourceType, c.field.bareName⟩

def setter (c : Column) : Method :=
  ⟨none, some "void", c.field.setter, [c.param],
   .ofLines [c.storage.setter.call c.field.constant (c.storage.pack c.field.bareName)]⟩

def getter (c : Column) : Method :=
  ⟨c.field.doc, some c.sourceType, c.field.getter, [],
   c.storage.unpack c.sourceType (c.storage.getter.call c.field.constant)⟩

end Column

namespace RecordClass

def constructor (c : RecordClass) (params : List Param) (body : Code) : Method :=
  ⟨none, none, c.name, params, body⟩

def superFields : Text := "super(" ++ Tuple.fieldsConstant ++ ");"

def emptyConstructor (c : RecordClass) : Method := c.constructor [] (.ofLines [superFields])

def tupleConstructor (c : RecordClass) : Method :=
  c.constructor [⟨"Tuple", "tuple"⟩] (.ofLines ["super(" ++ Tuple.fieldsConstant ++ ", tuple);"])

/-- The entry brings fields of its own, which are checked against those of the class. -/
def entryConstructor (c : RecordClass) : Method :=
  c.constructor [⟨"TupleEntry", "tupleEntry"⟩]
    (.ofLines ["super(tupleEntry);", "validateFields(tupleEntry, " ++ Tuple.fieldsConstant ++ ");"])

/-- The statement that sets a field from the parameter of its name. -/
def assignment (f : Field) : Text := f.setter ++ "(" ++ f.bareName ++ ");"

def valueConstructor (c : RecordClass) : Method :=
  c.constructor (c.columns.map Column.param)
    (.line superFields <| .blank <| .ofLines (c.fields.map assignment))

def constructors (c : RecordClass) : List Method :=
  [c.emptyConstructor, c.tupleConstructor, c.entryConstructor, c.valueConstructor]

/-- The setter and the getter of each field, in declaration order. -/
def accessors (c : RecordClass) : List Method :=
  c.columns.flatMap fun column => [column.setter, column.getter]

end RecordClass
end TupleRecord
