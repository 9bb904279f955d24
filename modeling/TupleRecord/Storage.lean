import TupleRecord.Settings
import TupleRecord.Template
import TupleRecord.Tuple

/-!
How fields are stored in a tuple. A field type has a name in the generated source
(`sourceName`) and a way to be stored (`Storage.ofType`); a `Column` is a field with both, and
`Column.ofField` refuses the fields that no tuple can hold.
-/
namespace TupleRecord

/-- The element of an array whose name has the binary form. -/
def binaryElement? (name : Text) : Option Text :=
  (Text.dropStart? "[L" name).bind (Text.dropEnd? ";")

theorem binaryElement?_eq_some_iff {name element : Text} :
    binaryElement? name = some element ↔ name = '[' :: 'L' :: (element ++ [';']) := by
  simp [binaryElement?, Option.bind_eq_some_iff, Text.dropStart?_eq_some_iff,
    Text.dropEnd?_eq_some_iff]

/-- The source name of a class: nested classes are separated by dots, and the package goes where
the source can do without it. -/
def classSourceName (name : Text) : Text :=
  let dotted := name.map fun c => if c == '$' then '.' else c
  match Text.dropStart? Primitive.languagePackage dotted with
  | some simple => if simple.contains '.' then dotted else simple
  | none =>
    match Text.dropStart? Tuple.libraryPackage dotted with
    | some simple => if Tuple.importedTypes.contains simple then simple else dotted
    | none => dotted

/-- The source name of a type that is named as at run time. -/
def sourceName (name : Text) : Text :=
  match _h : binaryElement? name with
  | some element => sourceName element ++ "[]"
  | none => classSourceName name
termination_by name.length
decreasing_by simp [binaryElement?_eq_some_iff.mp _h]; omega

def FieldType.sourceName (t : FieldType) : Text := TupleRecord.sourceName t.jvmName

/-- How the values of a field are stored in a tuple. -/
inductive Storage where
  /-- The elements of an array, as a nested tuple. -/
  | nestedTuple (element : Text)
  /-- The position of an enumeration's constant. -/
  | ordinal
  /-- The milliseconds of a date. -/
  | epochMillis
  /-- The text of a UUID. -/
  | uuidText
  | int32
  | int64
  /-- The value itself, read back by a getter of its type. -/
  | direct (getter : Tuple.Getter)
  deriving DecidableEq, Repr

namespace Storage

/-- The storage of a field type; what a type is comes before what its name says. -/
def ofType (t : FieldType) : Storage :=
  match t with
  | .array element => nestedTuple (sourceName element)
  | _ =>
    if t.isEnumeration then ordinal
    else if t.isDate then epochMillis
    else if t.isUuid then uuidText
    else if t.isInt32 then int32
    else if t.isInt64 then int64
    else direct (.ofSourceName t.sourceName)

/-- The setter that stores a value, once it is packed. -/
def setter : Storage → Tuple.Setter
  | nestedTuple _ => .object
  | ordinal => .integer
  | epochMillis => .long
  | uuidText => .string
  | int32 => .integer
  | int64 => .long
  | direct _ => .object

/-- The getter that returns what `setter` stored. -/
def getter : Storage → Tuple.Getter
  | nestedTuple _ => .object
  | ordinal => .integer
  | epochMillis => .long
  | uuidText => .string
  | int32 => .integer
  | int64 => .long
  | direct getter => getter

/-- The expression for what is stored of the variable `name`. -/
def pack (name : Text) : Storage → Text
  | nestedTuple _ => name ++ " == null ? null : new Tuple((Object[]) " ++ name ++ ")"
  | ordinal => name ++ ".ordinal()"
  | epochMillis => name ++ ".getTime()"
  | uuidText => name ++ ".toString()"
  | int32 => name
  | int64 => name
  | direct _ => name

end Storage

/-- Why a field of a known type cannot be stored. -/
inductive StorageFault where
  | nestedTemplate
  | untyped
  deriving DecidableEq, Repr

def StorageFault.message : StorageFault → Text
  | nestedTemplate => "nested templates cannot be stored in a tuple field"
  | untyped => "no typed tuple accessor for this type"

/-- A field that cannot be stored, with the name of its type. -/
structure StorageError where
  type : Text
  field : Text
  fault : StorageFault
  deriving DecidableEq, Repr

def StorageError.message (e : StorageError) : Text :=
  "unsupported type '" ++ e.type ++ "' in field '" ++ e.field ++ "': " ++ e.fault.message

/-- The name that a type carries, if that names a template: its last segment has the ending of
template names. -/
def FieldType.nestedTemplate? (ending : Text) : FieldType → Option Text
  | object name | array name =>
    if ending ≠ [] ∧ Text.endsWith ending (Name.simple name) then some name else none
  | _ => none

/-- A field with the source name of its type and its storage. -/
structure Column where
  field : Field
  sourceType : Text
  storage : Storage
  deriving DecidableEq, Repr

def Column.ofField (s : Settings) (f : Field) : Except StorageError Column :=
  match f.type.nestedTemplate? s.templateEnding with
  | some name => .error ⟨name, f.name, .nestedTemplate⟩
  | none =>
    let storage := Storage.ofType f.type
    if s.rejectUntyped ∧ storage = .direct .object then
      .error ⟨f.type.jvmName, f.name, .untyped⟩
    else .ok ⟨f, f.type.sourceName, storage⟩

end TupleRecord
