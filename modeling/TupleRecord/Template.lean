import TupleRecord.FieldType
import TupleRecord.Name.Derived

/-!
Templates: the description of a record class by a package, a name and a list of typed fields.
`Template.validate` finds the first reason why no class can be generated from a template, and
`Template.plan` adds the name of that class.
-/
namespace TupleRecord

/-- A field as it is declared. -/
structure Field where
  name : Text
  type : FieldType
  doc : Option Text
  deriving DecidableEq, Repr

namespace Field

/-! The names that a field has in the generated class. -/

def bareName (f : Field) : Text := Name.bare f.name

def constant (f : Field) : Text := Name.constant f.bareName

def setter (f : Field) : Text := Name.accessor "set" f.bareName

def getter (f : Field) : Text := Name.accessor "get" f.bareName

end Field

/-- The description of a record class. The package may be empty. -/
structure Template where
  package : Text
  name : Text
  fields : List Field
  deriving DecidableEq, Repr

/-- A name with its package before it, if there is one. -/
def qualify (package name : Text) : Text :=
  if package = [] then name else package ++ "." ++ name

def Template.qualifiedName (t : Template) : Text := qualify t.package t.name

/-- What a refused identifier should have named. -/
inductive IdentifierRole where
  | template
  | recordClass
  deriving DecidableEq, Repr

def IdentifierRole.description : IdentifierRole → Text
  | template => "template name"
  | recordClass => "generated class name"

/-- Why no class can be generated from a template. Fields are given by the names they were
declared with. -/
inductive TemplateError where
  | emptyName
  | invalidIdentifier (name : Text) (role : IdentifierRole)
  | invalidPackage (package segment : Text)
  | noFields (template : Text)
  | missingFieldName (index : Nat)
  | invalidFieldName (field : Text)
  | reservedWord (field word : Text)
  | duplicateField (name first second : Text)
  | constantCollision (first second constant : Text)
  | accessorCollision (first second accessor : Text)
  | unsupportedType (error : TypeError) (field : Text)
  deriving DecidableEq, Repr

def TemplateError.message : TemplateError → Text
  | emptyName => "template name is empty"
  | invalidIdentifier name role =>
    "'" ++ name ++ "' is not a valid identifier for " ++ role.description
  | invalidPackage package segment =>
    "invalid package name '" ++ package ++ "': bad segment '" ++ segment ++ "'"
  | noFields template => "template '" ++ template ++ "' declares no fields"
  | missingFieldName index => "field #" ++ Nat.toDigits 10 index ++ " has no name"
  | invalidFieldName field =>
    "field '" ++ field ++ "' does not form a valid identifier once stripped"
  | reservedWord field word => "field '" ++ field ++ "' uses the reserved word '" ++ word ++ "'"
  | duplicateField name first second =>
    "duplicate field '" ++ name ++ "' (declared as '" ++ first ++ "' and '" ++ second ++ "')"
  | constantCollision first second constant =>
    "fields '" ++ first ++ "' and '" ++ second ++ "' both map to constant " ++ constant
  | accessorCollision first second accessor =>
    "fields '" ++ first ++ "' and '" ++ second ++ "' both map to accessor " ++ accessor
  | unsupportedType error field =>
    unsupportedTypeMessage error.name (error.fault.message ++ " (field '" ++ field ++ "')")

namespace Template

def checkName (name : Text) : Except TemplateError Unit :=
  if name = [] then .error .emptyName
  else if Name.isUsable name then .ok ()
  else .error (.invalidIdentifier name .template)

def checkPackage (package : Text) : Except TemplateError Unit :=
  if package = [] then .ok ()
  else
    match (Text.split '.' package).find? (!Name.isUsable ·) with
    | some segment => .error (.invalidPackage package segment)
    | none => .ok ()

/-- The checks of a field by itself, at its position among the fields. -/
def checkField (index : Nat) (f : Field) : Except TemplateError Unit :=
  if f.name = [] then .error (.missingFieldName index)
  else if !Name.isIdentifier f.bareName then .error (.invalidFieldName f.name)
  else if Name.isReserved f.bareName then .error (.reservedWord f.name f.bareName)
  else
    match f.type.check with
    | .error e => .error (.unsupportedType e f.name)
    | .ok _ => .ok ()

/-- The check of a field against those before it. One accessor stands for both, which differ in
their verb alone. -/
def checkDistinct (earlier : List Field) (f : Field) : Except TemplateError Unit :=
  match earlier.find? (·.bareName == f.bareName) with
  | some g => .error (.duplicateField f.bareName g.name f.name)
  | none =>
    match earlier.find? (·.constant == f.constant) with
    | some g => .error (.constantCollision g.name f.name f.constant)
    | none =>
      match earlier.find? (·.setter == f.setter) with
      | some g => .error (.accessorCollision g.name f.name f.setter)
      | none => .ok ()

/-- Checks the fields that follow `earlier`, in order. -/
def checkFields (earlier : List Field) : List Field → Except TemplateError Unit
  | [] => .ok ()
  | f :: rest => do
    checkField earlier.length f
    checkDistinct earlier f
    checkFields (earlier ++ [f]) rest

/-- The first reason to refuse a template: its name, then its package, then its fields. -/
def validate (t : Template) : Except TemplateError Unit := do
  checkName t.name
  checkPackage t.package
  if t.fields = [] then .error (.noFields t.name)
  checkFields [] t.fields

end Template

/-- A template that was found valid, with the name of the class to generate from it. -/
structure Plan where
  template : Template
  className : Text
  deriving DecidableEq, Repr

namespace Plan

def constants (p : Plan) : List Text := p.template.fields.map Field.constant

/-- Holds if the template's name did not have the ending to exchange. -/
def keepsTemplateName (p : Plan) : Bool := p.className == p.template.name

end Plan

/-- The plan of a valid template. The class is named like the template, with another ending. -/
def Template.plan (t : Template) (ending replacement : Text) : Except TemplateError Plan := do
  t.validate
  let className := Name.exchangeEnding ending replacement t.name
  if Name.isUsable className then .ok ⟨t, className⟩
  else .error (.invalidIdentifier className .recordClass)

end TupleRecord
