import TupleRecord.Text
import TupleRecord.Unicode.Case
import TupleRecord.Unicode.Numeric

/-!
The names that a field or class gets from the name it was declared with: the bare name behind
the marker, the upper-snake-case constant, the accessor, the camel-case name of a snake-case
identifier, and the class name with its ending exchanged. None of them looks at a type.
-/
namespace TupleRecord.Name

/-- Declared names may begin with any number of markers, which generated names do not show. -/
def marker : Char := '_'

/-- A field name behind its markers. -/
def bare (name : Text) : Text := name.dropWhile (· == marker)

/-- A name whose `ending`, if it has it, is exchanged for another. An empty ending is never
exchanged. -/
def exchangeEnding (ending replacement name : Text) : Text :=
  if ending = [] then name
  else
    match Text.dropEnd? ending name with
    | some stem => stem ++ replacement
    | none => name

/-- The text with its first character in upper case. -/
def capitalize : Text → Text
  | [] => []
  | c :: rest => Unicode.toUppercase c ++ rest

/-- Decides if a word of a camel-case name begins at `c`: a capital behind a small letter or a
digit, or the last capital of a run before a small letter. -/
def beginsWord (previous : Option Char) (c : Char) (next : Option Char) : Bool :=
  match previous with
  | none => false
  | some p =>
    Unicode.isUppercase c &&
      (Unicode.isLowercase p || Unicode.isNumeric p ||
        (Unicode.isUppercase p && next.any Unicode.isLowercase))

/-- The upper-case text of a camel-case name behind `previous`, with a separator before each
word that begins in it. -/
def upperSnake (previous : Option Char) : Text → Text
  | [] => []
  | c :: rest =>
    (if beginsWord previous c rest.head? then ['_'] else []) ++ Unicode.toUppercase c ++
      upperSnake (some c) rest

def constantEnding : Text := "_FN"

/-- The constant that names a field: `userId` has `USER_ID_FN`, `HTMLParser` has
`HTML_PARSER_FN`. -/
def constant (name : Text) : Text := upperSnake none name ++ constantEnding

/-- An accessor of a field: the verb and the capitalized field name. -/
def accessor (verb name : Text) : Text := verb ++ capitalize name

/-- The words of a camel-case name, the first as it is and the others capitalized. -/
def joinWords : List Text → Text
  | [] => []
  | word :: words => word ++ words.flatMap capitalize

/-- The camel-case form of a snake-case identifier. Leading underscores stay, since they are
markers; the sign of a raw identifier goes. -/
def camelCase (identifier : Text) : Text :=
  let name := (Text.dropStart? "r#" identifier).getD identifier
  name.takeWhile (· == marker) ++
    joinWords ((Text.split '_' (bare name)).filter (· ≠ []))

end TupleRecord.Name
