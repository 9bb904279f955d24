import TupleRecord.RecordClass.Error

/-!
Record classes: what the source of a class is written from. `RecordClass.ofTemplate` makes the
class of a template, or finds the first reason why there is none.
-/
namespace TupleRecord

structure RecordClass where
  package : Text
  name : Text
  columns : List Column
  deriving DecidableEq, Repr

namespace RecordClass

def fields (c : RecordClass) : List Field := c.columns.map Column.field

/-- Checks the names that come together in the class, beyond what makes the template valid. -/
def checkNames (s : Settings) (p : Plan) : Except NamingFault Unit :=
  if !Name.isQualified s.baseRecord then .error (.invalidBase s.baseRecord)
  else if Name.simple s.baseRecord = p.className then .error (.extendsItself p.className)
  else if Tuple.importedTypes.contains p.className then .error (.importedName p.className)
  else
    match p.template.fields.find? (·.bareName == Tuple.fieldsConstant) with
    | some f => .error (.hidesFields f.name)
    | none =>
      match p.template.fields.find? (·.getter == ("getClass" : Text)) with
      | some f => .error (.overridesGetClass f.name)
      | none => .ok ()

/-- A class with one field must not repeat the constructor around a tuple or an entry. -/
def checkConstructors : List Column → Except NamingFault Unit
  | [c] =>
    if c.sourceType = "Tuple" ∨ c.sourceType = "TupleEntry" then
      .error (.repeatsConstructor c.field.name c.sourceType)
    else .ok ()
  | _ => .ok ()

def ofTemplate (s : Settings) (t : Template) : Except Error RecordClass := do
  let plan ← (t.plan s.templateEnding s.classEnding).mapError .template
  (checkNames s plan).mapError .naming
  let columns ← (t.fields.mapM (Column.ofField s)).mapError .storage
  (checkConstructors columns).mapError .naming
  return ⟨t.package, plan.className, columns⟩

end RecordClass
end TupleRecord
