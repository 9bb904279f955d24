import TupleRecord.Text

/-!
Declarations of templates as data types of the host program: a struct whose members become the
fields, with attributes on the struct and on each member. The syntax comes already parsed, except
for what is in the brackets of attributes.
-/
namespace TupleRecord

/-- Code of the host program as its tokens. -/
abbrev Tokens := List Text

namespace Declaration

mutual

/-- A type as it is written in a declaration. The last segment of a path is kept apart, because
it is the one that says what the type is. -/
inductive TypeExpr where
  | path (qualifier : Option TypeExpr) (leading : Bool) (front : List Segment) (last : Segment)
  | reference (element : TypeExpr)
  | slice (element : TypeExpr)
  | parenthesized (element : TypeExpr)
  | array (element : TypeExpr) (length : Text)
  | tuple (elements : List TypeExpr)
  | never
  /-- A type of another form, such as a pointer, a function or a trait object. -/
  | other (text : Text)
  deriving Repr

/-- An empty list of arguments differs from no list. -/
inductive Segment where
  | mk (name : Text) (arguments : Option (List TypeArgument))
  /-- The arguments are in round brackets, as those of a function trait. -/
  | call (name : Text) (inputs : List TypeExpr) (output : Option TypeExpr)
  deriving Repr

inductive TypeArgument where
  | type (type : TypeExpr)
  | lifetime (name : Text)
  | constant (value : Text)
  /-- What an argument says of an item that goes with the type. -/
  | associated (name text : Text)
  deriving Repr

end

/-- A token of the arguments of an attribute, as far as tokens are told apart there. What is in
brackets is one token. -/
inductive ArgumentToken where
  /-- A name, or names that `::` separates. -/
  | key (path : Text)
  /-- A path with no name behind its last `::`. -/
  | unfinished (path : Text)
  | equals
  | comma
  /-- A string literal by its value. -/
  | text (value : Text)
  | literal (token : Text)
  | other (token : Text)
  deriving DecidableEq, Repr

/-- What follows the path of an attribute. -/
inductive AttributeForm where
  | bare
  | value (tokens : List ArgumentToken)
  | arguments (tokens : List ArgumentToken)
  deriving DecidableEq, Repr

structure Attribute where
  path : Text
  form : AttributeForm
  deriving DecidableEq, Repr

structure Member where
  name : Text
  type : TypeExpr
  attributes : List Attribute
  deriving Repr

inductive Shape where
  | named (members : List Member)
  | positional
  | unit
  | enumeration
  | union
  deriving Repr

/-- A parameter of a generic declaration, with its attributes by what is in their brackets. No
bounds differ from bounds that are left empty. -/
inductive Parameter where
  | lifetime (attributes : List Tokens) (name : Text) (bounds : Option Tokens)
  | type (attributes : List Tokens) (name : Text) (bounds default : Option Tokens)
  | constant (attributes : List Tokens) (name : Text) (type : Tokens) (default : Option Tokens)
  deriving DecidableEq, Repr

/-- Parts with commas between them, and one behind the last or not. -/
structure Separated (α : Type) where
  parts : List α := []
  comma : Bool := false
  deriving DecidableEq, Repr

/-- What makes a declaration generic: its parameters, and the conditions on them. -/
structure Generics where
  parameters : Separated Parameter := {}
  conditions : Option (Separated Tokens) := none
  deriving DecidableEq, Repr

end Declaration

structure Declaration where
  name : Text
  attributes : List Declaration.Attribute
  shape : Declaration.Shape
  generics : Declaration.Generics := {}
  deriving Repr

end TupleRecord
