import TupleRecord.Proofs.Expansion.Builder
import TupleRecord.Proofs.Expansion.Generics

/-!
What an implementation says. `Expansion.read` takes a printed implementation apart again: the name
it is for, its generics, and the template that its function builds when it is called. It is
read back whole, so that implementations with the same text describe the same template.
-/
namespace TupleRecord

open Declaration (Generics Parameter AttributeReader)

/-- What an implementation says. -/
structure Implementation where
  name : Text
  generics : Generics
  template : Template
  deriving DecidableEq, Repr

namespace Expansion

open Reader in
/-- An implementation names its parameters again where it uses them. -/
def Reader.implementation : Reader Implementation := do
  expect (words "impl")
  let parameters ← angles parameter
  item "DatumTemplate"
  expect (words "for")
  let implemented ← token some
  let used ← angles Reader.name
  guard (used = parameters.map (·.name))
  let parts ← conditions
  expect (words "\x7b")
  let template ← function
  expect (words "\x7d")
  return {
    name := implemented
    generics := {
      parameters := { parts := parameters }
      conditions := if parts = [] then none else some { parts } }
    template }

end Expansion

/-- What holds of every declaration that is parsed. -/
structure Declaration.WellFormed (c : Tokenizer) (d : Declaration) : Prop where
  name : c.IsToken d.name
  generics : d.generics.WellFormed c

namespace Expansion

variable {q : Quoting} {c : Tokenizer} {d : Declaration}

/-- What a printed implementation says, if it is one. -/
def read (c : Tokenizer) (text : Text) : Option Implementation := do
  let (implementation, rest) ← Reader.implementation (← c.cut text)
  if rest = [] then some implementation else none

end Expansion

namespace Declaration

variable {r : AttributeReader} {q : Quoting} {c : Tokenizer} {d : Declaration} {t : Template}

end Declaration
end TupleRecord
