import TupleRecord.Name.Identifier
import TupleRecord.Text.Lines

/-!
The types that a record's field can have, and their names on the virtual machine. `FieldType.parse`
reads a type from its name, `FieldType.jvmName` gives the name back; arrays may be read in either
of two spellings and are given in the binary one.
-/
namespace TupleRecord

/-- The primitive types. There is no `byte` and no `char`, because the tuple has no typed getter
for them and an untyped value cannot be cast to them. -/
inductive Primitive where
  | boolean | short | int | long | float | double
  deriving DecidableEq, Repr

namespace Primitive

def all : List Primitive := [boolean, short, int, long, float, double]

def keyword : Primitive → Text
  | boolean => "boolean"
  | short => "short"
  | int => "int"
  | long => "long"
  | float => "float"
  | double => "double"

/-- The class that boxes a primitive, without its package. -/
def box : Primitive → Text
  | boolean => "Boolean"
  | short => "Short"
  | int => "Integer"
  | long => "Long"
  | float => "Float"
  | double => "Double"

/-- The package whose classes every source may name without it. -/
def languagePackage : Text := "java.lang."

def boxName (p : Primitive) : Text := languagePackage ++ p.box

def ofKeyword? (name : Text) : Option Primitive := all.find? (·.keyword == name)

/-- Reads the name of a box, with or without its package. -/
def ofBoxName? (name : Text) : Option Primitive :=
  let simple := (Text.dropStart? languagePackage name).getD name
  all.find? (·.box == simple)

end Primitive

/-- The declared type of a field. Names of classes are qualified, and a nested class may be
separated from its outer class by `$`. -/
inductive FieldType where
  | primitive (p : Primitive)
  | boxed (p : Primitive)
  | string
  | enumeration (name : Text)
  | date
  | uuid
  | array (element : Text)
  | object (name : Text)
  deriving DecidableEq, Repr

/-- Why a type name is not the name of a field type. -/
inductive TypeFault where
  | nestedArray
  | primitiveArray
  | noGetter
  | notTypeName
  deriving DecidableEq, Repr

def TypeFault.message : TypeFault → Text
  | nestedArray => "nested arrays"
  | primitiveArray => "arrays of primitive types"
  | noGetter => "no tuple accessor for this primitive"
  | notTypeName => "not a type name"

/-- A type name that was refused. -/
structure TypeError where
  name : Text
  fault : TypeFault
  deriving DecidableEq, Repr

def unsupportedTypeMessage (name reason : Text) : Text :=
  "unsupported type '" ++ name ++ "': " ++ reason

def TypeError.message (e : TypeError) : Text := unsupportedTypeMessage e.name e.fault.message

namespace FieldType

/-- Holds of the name of a class: segments between dots and dollar signs, all usable. This also
refuses the names of primitive types. -/
def isClassName (name : Text) : Bool :=
  (Text.splitBy (fun c => c == '.' || c == '$') name).all Name.isUsable

/-- The primitive types that no field can have. -/
def isUnsupportedPrimitive (name : Text) : Bool :=
  (["byte", "char", "void"] : List Text).contains name

/-- The name of the type at run time. An array has the binary form. -/
def jvmName : FieldType → Text
  | primitive p => p.keyword
  | boxed p => p.boxName
  | string => "java.lang.String"
  | enumeration name => name
  | date => "java.util.Date"
  | uuid => "java.util.UUID"
  | array element => "[L" ++ element ++ ";"
  | object name => name

def isArray : FieldType → Bool
  | array _ => true
  | _ => false

def isEnumeration : FieldType → Bool
  | enumeration _ => true
  | _ => false

/-! A class given by name is a date, a number or a UUID if that is what its name says. -/

def isDate (t : FieldType) : Bool := t.jvmName == ("java.util.Date" : Text)

def isUuid (t : FieldType) : Bool := t.jvmName == ("java.util.UUID" : Text)

def isInt32 (t : FieldType) : Bool :=
  t.jvmName == Primitive.int.keyword || t.jvmName == Primitive.int.boxName

def isInt64 (t : FieldType) : Bool :=
  t.jvmName == Primitive.long.keyword || t.jvmName == Primitive.long.boxName

/-- Accepts a class name on behalf of the type `t` that is known as `whole`. -/
def requireClassName (whole name : Text) (t : FieldType) : Except TypeError FieldType :=
  if isClassName name then .ok t else .error ⟨whole, .notTypeName⟩

/-- The class names that a type carries are checked, since a type need not come from `parse`. -/
def check (t : FieldType) : Except TypeError FieldType :=
  match t with
  | enumeration name => requireClassName t.jvmName name t
  | object name => requireClassName t.jvmName name t
  | array element => requireClassName t.jvmName element t
  | _ => .ok t

/-- Reads a binary array name behind its first bracket. -/
def parseBinaryArray (whole descriptor : Text) : Except TypeError FieldType :=
  if descriptor.head? = some '[' then .error ⟨whole, .nestedArray⟩
  else
    match (Text.dropStart? "L" descriptor).bind (Text.dropEnd? ";") with
    | some element => requireClassName whole element (array element)
    | none => .error ⟨whole, .primitiveArray⟩

/-- Reads an array in source form before its brackets. -/
def parseSourceArray (whole element : Text) : Except TypeError FieldType :=
  if Text.endsWith "[]" element then .error ⟨whole, .nestedArray⟩
  else if (Primitive.ofKeyword? element).isSome || isUnsupportedPrimitive element then
    .error ⟨whole, .primitiveArray⟩
  else requireClassName whole element (array element)

/-- Reads a name that is no array. -/
def parseSimple (name : Text) : Except TypeError FieldType :=
  match Primitive.ofKeyword? name with
  | some p => .ok (primitive p)
  | none =>
    if isUnsupportedPrimitive name then .error ⟨name, .noGetter⟩
    else
      match Primitive.ofBoxName? name with
      | some p => .ok (boxed p)
      | none =>
        if name = "java.lang.String" ∨ name = "String" then .ok string
        else if name = "java.util.Date" then .ok date
        else if name = "java.util.UUID" then .ok uuid
        else requireClassName name name (object name)

/-- Reads a type from its name, between blanks. An enumeration is read as an object, because its
name does not tell it from other classes. -/
def parse (text : Text) : Except TypeError FieldType :=
  let name := Text.trim text
  match Text.dropStart? "[" name with
  | some descriptor => parseBinaryArray name descriptor
  | none =>
    match Text.dropEnd? "[]" name with
    | some element => parseSourceArray name element
    | none => parseSimple name

end FieldType
end TupleRecord
