import TupleRecord.Text

/-!
String literals of the generated source. The quote, the backslash, the line breaks and the tab
are escaped; every other character stands for itself.
-/
namespace TupleRecord.Java.Literal

def escapeChar (c : Char) : Text :=
  if c = '"' then "\\\""
  else if c = '\\' then "\\\\"
  else if c = '\n' then "\\n"
  else if c = '\r' then "\\r"
  else if c = '\t' then "\\t"
  else [c]

def quote (text : Text) : Text := '"' :: (text.flatMap escapeChar ++ ['"'])

end TupleRecord.Java.Literal
