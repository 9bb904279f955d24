import TupleRecord.Java.Writer
import TupleRecord.Text.Lines

/-!
Documentation comments. Their text is arbitrary, so it is escaped first: nothing in it may end
the comment, and the compiler reads unicode escapes even inside comments.
-/
namespace TupleRecord.Java.Comment

/-- Replaces the backslash of every unicode escape by its character reference. -/
def escapeUnicode : Text → Text
  | '\\' :: 'u' :: rest => "&#92;u" ++ escapeUnicode rest
  | c :: rest => c :: escapeUnicode rest
  | [] => []

/-- Replaces the slash of every comment end by its character reference. -/
def escapeEnd : Text → Text
  | '*' :: '/' :: rest => "*&#47;" ++ escapeEnd rest
  | c :: rest => c :: escapeEnd rest
  | [] => []

def escape (doc : Text) : Text := escapeEnd (escapeUnicode doc)

/-- The line of a comment of several lines that shows one line of its text. -/
def boxedLine (line : Text) : Text := if line = [] then " *" else " * " ++ line

/-- The lines of a comment: one line for a text that has no more, a box around several. -/
def layout (doc : Text) : List Text :=
  match (Text.lines (escape doc)).map Text.trimEnd with
  | [] => ["/**  */"]
  | [line] => ["/** " ++ line ++ " */"]
  | lines => "/**" :: (lines.map boxedLine ++ [(" */" : Text)])

end TupleRecord.Java.Comment

namespace TupleRecord.Java

def Writer.doc (w : Writer) (doc : Text) : Writer := w.lines (Comment.layout doc)

end TupleRecord.Java
