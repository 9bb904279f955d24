import TupleRecord.Text
import TupleRecord.Unicode.WhiteSpace

/-!
Lines of a text and the blanks at its ends. A blank is any character of the property
White_Space. A line ends at a line feed, which may have a carriage return directly before it.
-/
namespace TupleRecord.Text

def trimStart (text : Text) : Text := text.dropWhile Unicode.isWhiteSpace

def trimEnd (text : Text) : Text := (text.reverse.dropWhile Unicode.isWhiteSpace).reverse

def trim (text : Text) : Text := trimEnd (trimStart text)

/-- A line without the carriage return that belongs to its line break. -/
def dropReturn (line : Text) : Text := (dropEnd? ['\r'] line).getD line

/-- The lines of a text. What follows the last line feed is a line only if it is not empty, and
keeps its carriage return. -/
def lines (text : Text) : List Text :=
  let pieces := split '\n' text
  pieces.dropLast.map dropReturn ++ (pieces.getLast?.filter (· ≠ [])).toList

end TupleRecord.Text
