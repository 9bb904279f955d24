import TupleRecord.Declaration.Template
import TupleRecord.Declaration.Quoting

/-!
The code that a declaration expands to: an implementation that builds the template when it is
called.
-/
namespace TupleRecord

namespace Expansion

/-- Arguments in parentheses. -/
def call (arguments : List Tokens) : Tokens := words "(" ++ listed arguments false ++ words ")"

/-- An item of the library that holds the template types. -/
def schemaItem (name : Text) : Tokens := words ":: datumgen :: schema ::" ++ [name]

def primitiveName : Primitive → Text
  | .boolean => "Boolean"
  | .short => "Short"
  | .int => "Int"
  | .long => "Long"
  | .float => "Float"
  | .double => "Double"

def primitive (p : Primitive) : Tokens := schemaItem "Primitive" ++ words "::" ++ [primitiveName p]

/-- A constructor of field types. -/
def fieldTypeItem (name : Text) : Tokens := schemaItem "FieldType" ++ words "::" ++ [name]

section

variable (q : Quoting)

/-- A call that makes an owned text. -/
def ownedText (text : Text) : Tokens :=
  words ":: std :: string :: String :: from" ++ call [[q.literal text]]

def fieldType : FieldType → Tokens
  | .primitive p => fieldTypeItem "Primitive" ++ call [primitive p]
  | .boxed p => fieldTypeItem "Boxed" ++ call [primitive p]
  | .string => fieldTypeItem "String"
  | .enumeration name => fieldTypeItem "Enum" ++ call [ownedText q name]
  | .date => fieldTypeItem "Date"
  | .uuid => fieldTypeItem "Uuid"
  | .array element => fieldTypeItem "ReferenceArray" ++ call [ownedText q element]
  | .object name => fieldTypeItem "Object" ++ call [ownedText q name]

/-- The expression that makes a field. -/
def field (f : Field) : Tokens :=
  schemaItem "FieldDescriptor" ++ words ":: new" ++ call [[q.literal f.name], fieldType q f.type] ++
    match f.doc with
    | some doc => words ". with_doc" ++ call [[q.literal doc]]
    | none => []

def addField (f : Field) : Tokens := words "template . add_field" ++ call [field q f] ++ words ";"

/-- The function that builds a template when it is called. -/
def function (t : Template) : Tokens :=
  words "fn template_description ( ) ->" ++ schemaItem "TemplateDescription" ++
    words "\x7b let mut template =" ++ schemaItem "TemplateDescription" ++ words ":: new" ++
    call [[q.literal t.package], [q.literal t.name]] ++ words ";" ++
    t.fields.flatMap (addField q) ++ words "template \x7d"

/-- The implementation for a declaration of a template. -/
def tokens (d : Declaration) (t : Template) : Tokens :=
  words "impl" ++ q.binding d.generics ++ schemaItem "DatumTemplate" ++ words "for" ++ [d.name] ++
    q.use d.generics ++ q.conditions d.generics ++ words "\x7b" ++ function q t ++ words "\x7d"

end

end Expansion

/-- The printed implementation of the template that a declaration describes. -/
def Declaration.expand (d : Declaration) (r : Declaration.AttributeReader) (q : Quoting) :
    Except Declaration.Error Text := do
  return q.print (Expansion.tokens q d (← d.template r))

end TupleRecord
