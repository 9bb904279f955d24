import TupleRecord.Text
import TupleRecord.Unicode.Numeric

/-!
Identifiers of the generated source. A name that is declared there has to be an identifier and
must not be a reserved word; a qualified name is made of such segments.
-/
namespace TupleRecord.Name

def isIdentifierStart (c : Char) : Bool := Unicode.isAlphabetic c || c == '_' || c == '$'

def isIdentifierPart (c : Char) : Bool := Unicode.isAlphanumeric c || c == '_' || c == '$'

/-- Identifier syntax alone: a reserved word has it too. -/
def isIdentifier : Text → Bool
  | [] => false
  | c :: name => isIdentifierStart c && name.all isIdentifierPart

/-- The keywords and literals of the generated source, in alphabetical order. -/
def reservedWords : List Text :=
  ["abstract", "assert", "boolean", "break", "byte", "case", "catch", "char", "class", "const",
   "continue", "default", "do", "double", "else", "enum", "extends", "false", "final", "finally",
   "float", "for", "goto", "if", "implements", "import", "instanceof", "int", "interface", "long",
   "native", "new", "null", "package", "private", "protected", "public", "return", "short",
   "static", "strictfp", "super", "switch", "synchronized", "this", "throw", "throws",
   "transient", "true", "try", "void", "volatile", "while"].map String.toList

def isReserved (name : Text) : Bool := reservedWords.contains name

/-- Holds of a name that a class, member or package segment can have. -/
def isUsable (name : Text) : Bool := isIdentifier name && !isReserved name

/-- Holds of a qualified name all of whose dotted segments are usable. -/
def isQualified (name : Text) : Bool := (Text.split '.' name).all isUsable

/-- The last segment of a qualified name. -/
def simple (name : Text) : Text := Text.afterLast '.' name

end TupleRecord.Name
