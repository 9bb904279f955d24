import TupleRecord.Text

/-!
A buffer of source lines with an indentation. Every operation adds to the end of the text, and
`Writer.text` is all that was added. A line that is not empty begins with the indentation; an
empty line has no blanks.
-/
namespace TupleRecord.Java

structure Writer where
  /-- Spaces per level. -/
  unit : Nat
  level : Nat
  /-- What was written, the latest piece first. -/
  pieces : List Text
  deriving DecidableEq, Repr

namespace Writer

def new (unit : Nat) : Writer := ⟨unit, 0, []⟩

def text (w : Writer) : Text := w.pieces.reverse.flatten

/-- The width of the indentation. The overflow of a machine word and the limit of what a text can
hold are left out. -/
def width (w : Writer) : Nat := w.unit * w.level

/-- A line behind `width` spaces, with its line feed. -/
def indented (width : Nat) (text : Text) : Text :=
  if text = [] then ['\n'] else List.replicate width ' ' ++ text ++ ['\n']

/-- Adds text as it is, without indentation. -/
def raw (w : Writer) (text : Text) : Writer := { w with pieces := text :: w.pieces }

def line (w : Writer) (text : Text) : Writer := w.raw (indented w.width text)

def blank (w : Writer) : Writer := w.line []

def lines (w : Writer) (texts : List Text) : Writer := texts.foldl line w

def indent (w : Writer) : Writer := { w with level := w.level + 1 }

/-- There is no level below the first, so a surplus `dedent` does nothing. -/
def dedent (w : Writer) : Writer := { w with level := w.level - 1 }

def openBlock (w : Writer) (head : Text) : Writer := (w.line (head ++ " \x7b")).indent

def closeWith (w : Writer) (text : Text) : Writer := w.dedent.line text

def closeBlock (w : Writer) : Writer := w.closeWith "\x7d"

@[simp] theorem text_new (unit : Nat) : (new unit).text = [] := rfl

@[simp] theorem text_raw (w : Writer) (t : Text) : (w.raw t).text = w.text ++ t := by
  simp [text, raw]

@[simp] theorem text_line (w : Writer) (t : Text) :
    (w.line t).text = w.text ++ indented w.width t := by
  simp [line]

@[simp] theorem text_indent (w : Writer) : w.indent.text = w.text := rfl

@[simp] theorem text_dedent (w : Writer) : w.dedent.text = w.text := rfl

end Writer
end TupleRecord.Java
