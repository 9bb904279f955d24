import TupleRecord.Java.Literal
import TupleRecord.RecordClass.Members

/-!
The source text of a record class: the header with the package and the imports, the constants
that name the fields, and the members, each behind an empty line.
-/
namespace TupleRecord.RecordClass

open Java

def header : Text :=
  let lines : List Text :=
    ["/**", " * Autogenerated by Scale Unlimited's DatumCompiler", " * ", " * DO NOT EDIT DIRECTLY",
     " * SUB-CLASS TO CUSTOMIZE", " */"]
  lines.flatMap (· ++ ['\n'])

/-- The imported classes. A base record without a package is in scope as it is, or nowhere. -/
def imports (baseRecord : Text) : List Text :=
  Tuple.imports ++ if baseRecord.contains '.' then [baseRecord] else []

/-- Writes all that precedes the class. -/
def writePrologue (baseRecord package : Text) (w : Writer) : Writer :=
  let headed := (w.raw header).blank
  let packaged :=
    if package = [] then headed else (headed.line ("package " ++ package ++ ";")).blank
  (packaged.lines ((imports baseRecord).map fun name => "import " ++ name ++ ";")).blank

/-- The constant that registers the name of a field with the class. -/
def constantLine (className : Text) (f : Field) : Text :=
  "public static final String " ++ f.constant ++ " = fieldName(" ++ className ++ ".class, " ++
    Literal.quote f.bareName ++ ");"

/-- The declaration that lists all constants, before the list. -/
def fieldsHead : Text :=
  "public static final Fields " ++ Tuple.fieldsConstant ++ " = new Fields(new String[]"

/-- The names with a comma behind each but the last. -/
def separated : List Text → List Text
  | [] => []
  | [name] => [name]
  | name :: names => (name ++ ",") :: separated names

/-- Writes the list of all constants on one line if that fits, and else one to a line. -/
def writeFields (maxLineWidth : Nat) (constants : List Text) (w : Writer) : Writer :=
  let single := fieldsHead ++ " \x7b" ++ List.intercalate ", " constants ++ "\x7d);"
  if w.width + single.length ≤ maxLineWidth then w.line single
  else ((w.openBlock fieldsHead).lines (separated constants)).closeWith "\x7d);"

/-- Writes the constant of each field and then the list of all. -/
def writeConstants (c : RecordClass) (maxLineWidth : Nat) (w : Writer) : Writer :=
  writeFields maxLineWidth (c.fields.map Field.constant)
    (w.lines (c.fields.map (constantLine c.name))).blank

def writeMember (w : Writer) (m : Method) : Writer := w.blank.method m

/-- The declaration of the class before its block. -/
def declaration (c : RecordClass) (baseRecord : Text) : Text :=
  "public class " ++ c.name ++ " extends " ++ Name.simple baseRecord

/-- The whole source of a class. -/
def source (c : RecordClass) (s : Settings) : Text :=
  let prologue := writePrologue s.baseRecord c.package (.new s.indentWidth)
  let opened := (prologue.openBlock (c.declaration s.baseRecord)).blank
  let constants := c.writeConstants s.maxLineWidth opened
  ((c.constructors ++ c.accessors).foldl writeMember constants).closeBlock.text

end TupleRecord.RecordClass
