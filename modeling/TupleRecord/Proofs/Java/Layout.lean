import TupleRecord.Java.Method

/-!
What a writer adds, as lines with a depth. Every structured operation leaves the level as it was,
so the text of a method or a comment is a list of lines that can be read without the writer.
-/
namespace TupleRecord.Java

/-- A line at a depth of nesting. -/
structure Line where
  depth : Nat
  text : Text
  deriving DecidableEq, Repr

/-- A line is its text between some spaces and a line feed. -/
theorem Writer.indented_append (width : Nat) (text : Text) :
    ∃ spaces, ∀ rest, indented width text ++ rest =
      List.replicate spaces ' ' ++ (text ++ '\n' :: rest) := by
  by_cases h : text = []
  · exact ⟨0, fun rest => by simp [indented, h]⟩
  · exact ⟨width, fun rest => by simp [indented, h]⟩

/-- The text of a run of lines, with `unit` spaces per level. -/
def renderLines (unit : Nat) (lines : List Line) : Text :=
  lines.flatMap fun l => Writer.indented (unit * l.depth) l.text

@[simp] theorem renderLines_nil (unit : Nat) : renderLines unit [] = [] := rfl

@[simp] theorem renderLines_cons (unit : Nat) (l : Line) (lines : List Line) :
    renderLines unit (l :: lines) =
      Writer.indented (unit * l.depth) l.text ++ renderLines unit lines := rfl

@[simp] theorem renderLines_append (unit : Nat) (a b : List Line) :
    renderLines unit (a ++ b) = renderLines unit a ++ renderLines unit b := by
  simp [renderLines]

/-- The lines of a run of statements. -/
def Code.lines (depth : Nat) : Code → List Line
  | done => []
  | line text next => ⟨depth, text⟩ :: next.lines depth
  | blank next => ⟨depth, []⟩ :: next.lines depth
  | block head body next =>
    ⟨depth, head ++ " \x7b"⟩ :: (body.lines (depth + 1) ++ ⟨depth, "\x7d"⟩ :: next.lines depth)

@[simp] theorem Code.lines_ofLines (depth : Nat) (texts : List Text) :
    (Code.ofLines texts).lines depth = texts.map (Line.mk depth) := by
  induction texts with
  | nil => rfl
  | cons text texts ih => simp [ofLines, lines, ih]

/-- The lines of a documentation comment. -/
def Comment.lines (depth : Nat) (doc : Text) : List Line := (layout doc).map (Line.mk depth)

/-- The lines of a method below its comment. -/
def Method.codeLines (depth : Nat) (m : Method) : List Line :=
  ⟨depth, m.signature ++ " \x7b"⟩ :: (m.body.lines (depth + 1) ++ [⟨depth, "\x7d"⟩])

def Method.lines (depth : Nat) (m : Method) : List Line :=
  m.doc.elim [] (Comment.lines depth) ++ m.codeLines depth

namespace Writer

/-- The writer behind some more lines. -/
def add (w : Writer) (lines : List Line) : Writer :=
  { w with pieces := (lines.map fun l => indented (w.unit * l.depth) l.text).reverse ++ w.pieces }

@[simp] theorem unit_add (w : Writer) (lines : List Line) : (w.add lines).unit = w.unit := rfl

@[simp] theorem level_add (w : Writer) (lines : List Line) : (w.add lines).level = w.level := rfl

@[simp] theorem text_add (w : Writer) (lines : List Line) :
    (w.add lines).text = w.text ++ renderLines w.unit lines := by
  simp [add, text, renderLines, List.flatMap_def]

@[simp] theorem add_nil (w : Writer) : w.add [] = w := rfl

@[simp] theorem add_add (w : Writer) (a b : List Line) : (w.add a).add b = w.add (a ++ b) := by
  simp [add]

theorem line_eq_add (w : Writer) (text : Text) : w.line text = w.add [⟨w.level, text⟩] := rfl

theorem blank_eq_add (w : Writer) : w.blank = w.add [⟨w.level, []⟩] := rfl

theorem lines_eq_add (w : Writer) (texts : List Text) :
    w.lines texts = w.add (texts.map (Line.mk w.level)) := by
  induction texts generalizing w with
  | nil => rfl
  | cons text texts ih =>
    have hfold : w.lines (text :: texts) = (w.line text).lines texts := rfl
    rw [hfold, ih, line_eq_add, add_add, level_add]
    rfl

theorem openBlock_eq_add (w : Writer) (head : Text) :
    w.openBlock head = (w.add [⟨w.level, head ++ " \x7b"⟩]).indent := rfl

/-- Closing takes back the level that was opened, whatever was added in between. -/
theorem closeWith_indent_add (w : Writer) (lines : List Line) (text : Text) :
    (w.indent.add lines).closeWith text = w.add (lines ++ [⟨w.level, text⟩]) := by
  have hdedent : (w.indent.add lines).dedent = w.add lines := rfl
  rw [closeWith, hdedent, line_eq_add, add_add, level_add]

theorem closeBlock_indent_add (w : Writer) (lines : List Line) :
    (w.indent.add lines).closeBlock = w.add (lines ++ [⟨w.level, "\x7d"⟩]) :=
  closeWith_indent_add w lines _

theorem code_eq_add (w : Writer) (c : Code) : w.code c = w.add (c.lines w.level) := by
  induction c generalizing w with
  | done => rfl
  | line text next ih =>
    rw [code, ih, line_eq_add, add_add, level_add]
    rfl
  | blank next ih =>
    rw [code, ih, blank_eq_add, add_add, level_add]
    rfl
  | block head body next ihbody ihnext =>
    have hlevel : ((w.add [⟨w.level, head ++ " \x7b"⟩]).indent).level = w.level + 1 := rfl
    rw [code, ihnext, ihbody, openBlock_eq_add, hlevel, closeBlock_indent_add]
    simp [Code.lines]

theorem doc_eq_add (w : Writer) (doc : Text) : w.doc doc = w.add (Comment.lines w.level doc) :=
  lines_eq_add w _

theorem method_eq_add (w : Writer) (m : Method) : w.method m = w.add (m.lines w.level) := by
  have hdocumented : m.doc.elim w w.doc = w.add (m.doc.elim [] (Comment.lines w.level)) := by
    cases m.doc with
    | none => rfl
    | some doc => exact doc_eq_add w doc
  have hlevel (v : Writer) : v.indent.level = v.level + 1 := rfl
  rw [method, hdocumented, openBlock_eq_add, code_eq_add, hlevel, closeBlock_indent_add]
  simp [Method.lines, Method.codeLines]

end Writer
end TupleRecord.Java
