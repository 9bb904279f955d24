import TupleRecord.FieldType

/-!
The tuple library that generated classes are written against: the classes they import, the
members they inherit, and the typed access to the entry that holds a record's values.
-/
namespace TupleRecord.Tuple

def libraryPackage : Text := "cascading.tuple."

/-- The classes of the library that every generated source imports. -/
def importedTypes : List Text := ["Fields", "Tuple", "TupleEntry"]

def imports : List Text := importedTypes.map (libraryPackage ++ ·)

/-- The inherited entry that holds the values of a record. -/
def entryMember : Text := "_tupleEntry"

/-- The constant of a record class that lists the names of its fields. -/
def fieldsConstant : Text := "FIELDS"

/-- The typed getters of an entry. -/
inductive Getter where
  | boolean | short | integer | long | float | double | string | object
  deriving DecidableEq, Repr

namespace Getter

/-- The type that a getter is named after. -/
def typeName : Getter → Text
  | boolean => "Boolean"
  | short => "Short"
  | integer => "Integer"
  | long => "Long"
  | float => "Float"
  | double => "Double"
  | string => "String"
  | object => "Object"

def method (g : Getter) : Text := "get" ++ g.typeName

/-- What the untyped getter returns must be cast. -/
def needsCast (g : Getter) : Bool := g == object

def ofPrimitive : Primitive → Getter
  | .boolean => boolean
  | .short => short
  | .int => integer
  | .long => long
  | .float => float
  | .double => double

/-- The getter that returns a type named as in source: the typed one of a primitive, its box or
a string, and the untyped one for every other type. -/
def ofSourceName (name : Text) : Getter :=
  match Primitive.all.find? (fun p => p.keyword == name || p.box == name) with
  | some p => ofPrimitive p
  | none => if name = "String" then string else object

/-- The expression that reads the field named by `constant`. -/
def call (g : Getter) (constant : Text) : Text :=
  entryMember ++ "." ++ g.method ++ "(" ++ constant ++ ")"

end Getter

/-- The typed setters of an entry that records use. -/
inductive Setter where
  | integer | long | string | object
  deriving DecidableEq, Repr

namespace Setter

def method : Setter → Text
  | integer => "setInteger"
  | long => "setLong"
  | string => "setString"
  | object => "setObject"

/-- The statement that stores `value` in the field named by `constant`. -/
def call (s : Setter) (constant value : Text) : Text :=
  entryMember ++ "." ++ s.method ++ "(" ++ constant ++ ", " ++ value ++ ");"

end Setter

end TupleRecord.Tuple
