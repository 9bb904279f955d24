import TupleRecord.Proofs.Expansion.Reader
import TupleRecord.Proofs.Expansion.Token

/-!
The function that builds a template. It is read back from its tokens, statement by statement: a
field by its name, the constructor of its type and its doc.
-/
namespace TupleRecord.Expansion

namespace Reader

/-- The value of a string literal. -/
def text : Reader Text := token Quoting.literalValue?

/-- The path of an item of the library. -/
def item (name : Text) : Reader Unit := expect (words ":: datumgen :: schema ::" ++ [name])

def primitive : Reader Primitive := do
  item "Primitive"
  expect (words "::")
  oneOf [("Boolean", .boolean), ("Short", .short), ("Int", .int), ("Long", .long),
    ("Float", .float), ("Double", .double)]

def ownedText : Reader Text := do
  expect (words ":: std :: string :: String :: from")
  parens text

/-- The constructors of field types, each with a reader of what it is given. -/
def constructors : List (Text × Reader FieldType) :=
  [("Primitive", return .primitive (← parens primitive)),
   ("Boxed", return .boxed (← parens primitive)),
   ("String", return .string),
   ("Enum", return .enumeration (← parens ownedText)),
   ("Date", return .date),
   ("Uuid", return .uuid),
   ("ReferenceArray", return .array (← parens ownedText)),
   ("Object", return .object (← parens ownedText))]

def fieldType : Reader FieldType := do
  item "FieldType"
  expect (words "::")
  let arguments ← oneOf constructors
  arguments

def doc : Reader Text := do
  expect (words ". with_doc")
  parens text

/-- The expression that makes a field. -/
def field : Reader Field := do
  item "FieldDescriptor"
  expect (words ":: new")
  let (name, type) ← parens (pair text fieldType)
  return ⟨name, type, ← optional doc⟩

/-- A statement that adds a field to the template. -/
def addField : Reader Field := do
  expect (words "template . add_field")
  let field ← parens field
  expect (words ";")
  return field

/-- The function that builds the template: its last statement gives the template back. -/
def function : Reader Template := do
  expect (words "fn template_description ( ) ->")
  item "TemplateDescription"
  expect (words "\x7b let mut template =")
  item "TemplateDescription"
  expect (words ":: new")
  let (package, name) ← parens (pair text text)
  expect (words ";")
  let fields ← many addField
  expect (words "template \x7d")
  return ⟨package, name, fields⟩

variable {rest : Tokens}

section

variable {q : Quoting} {c : Tokenizer} (hq : q.Lawful c)

include hq

end

end Reader

/-! ### Its tokens -/

section

variable {q : Quoting} {c : Tokenizer} (hc : c.Lawful) (hq : q.Lawful c)

include hc

include hq

end

end TupleRecord.Expansion
