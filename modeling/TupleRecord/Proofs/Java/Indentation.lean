import TupleRecord.Proofs.Java.Escape
import TupleRecord.Proofs.Java.Plain
import TupleRecord.Proofs.Java.Reader

/-!
What the indentation of a writer adds. Code and methods are written at every level as at the first,
but for the spaces before their lines: the lines of a deeper block are the same lines, each one as
many levels deeper, and empty lines stay empty.
-/
namespace TupleRecord

namespace Text

/-- A line behind `width` spaces, unless it is empty. -/
def indentLine (width : Nat) (line : Text) : Text :=
  if line = [] then [] else List.replicate width ' ' ++ line

/-- A text with `width` spaces before each of its lines that is not empty. -/
def indentLines (width : Nat) (text : Text) : Text :=
  List.intercalate ['\n'] ((split '\n' text).map (indentLine width))

theorem unlines_eq_intercalate (lines : List Text) :
    unlines lines = List.intercalate ['\n'] (lines ++ [[]]) := by
  induction lines with
  | nil => rfl
  | cons line lines ih =>
    have hrest : lines ++ [[]] ≠ [] := by simp
    rw [unlines_cons, ih, List.cons_append, List.intercalate_cons_of_ne_nil hrest]
    simp

theorem indentLines_unlines (width : Nat) {lines : List Text} (h : ∀ line ∈ lines, '\n' ∉ line) :
    indentLines width (unlines lines) = unlines (lines.map (indentLine width)) := by
  have hsplit := split_unlines h []
  rw [List.append_nil] at hsplit
  have hlast : split '\n' [] = [[]] := rfl
  rw [indentLines, hsplit, hlast, List.map_append, unlines_eq_intercalate]
  rfl

end Text

namespace Java

open Text

/-- The same line some levels deeper. -/
def Line.deepen (levels : Nat) (l : Line) : Line := ⟨levels + l.depth, l.text⟩

theorem Line.written_deepen (unit levels : Nat) (l : Line) :
    (l.deepen levels).written unit = indentLine (unit * levels) (l.written unit) := by
  unfold written deepen indentLine
  by_cases h : l.text = []
  · rw [if_pos h, if_pos h, if_pos rfl]
  · have hne : List.replicate (unit * l.depth) ' ' ++ l.text ≠ [] := by simp [h]
    rw [if_neg h, if_neg h, if_neg hne, Nat.mul_add, ← List.replicate_append_replicate,
      List.append_assoc]

/-- Lines that are some levels deeper are the same text, indented. -/
theorem renderLines_deepen (unit levels : Nat) {lines : List Line}
    (h : ∀ l ∈ lines, '\n' ∉ l.text) :
    renderLines unit (lines.map (Line.deepen levels)) =
      indentLines (unit * levels) (renderLines unit lines) := by
  have hwritten : ∀ line ∈ lines.map (Line.written unit), '\n' ∉ line :=
    List.forall_mem_map.mpr fun l hl => Line.newline_notMem_written (h l hl)
  rw [renderLines_eq_unlines, renderLines_eq_unlines, indentLines_unlines _ hwritten,
    List.map_map, List.map_map]
  congr 1
  exact List.map_congr_left fun l _ => Line.written_deepen unit levels l

theorem Code.lines_deepen (levels depth : Nat) (c : Code) :
    c.lines (levels + depth) = (c.lines depth).map (Line.deepen levels) := by
  induction c generalizing depth with
  | done => rfl
  | line text next ih =>
    rw [lines, lines, ih, List.map_cons]
    rfl
  | blank next ih =>
    rw [lines, lines, ih, List.map_cons]
    rfl
  | block head body next ihbody ihnext =>
    rw [lines, lines, Nat.add_assoc, ihbody, ihnext, List.map_cons, List.map_append, List.map_cons]
    rfl

theorem Comment.lines_deepen (levels depth : Nat) (doc : Text) :
    Comment.lines (levels + depth) doc = (Comment.lines depth doc).map (Line.deepen levels) := by
  rw [Comment.lines, Comment.lines, List.map_map]
  rfl

theorem Method.lines_deepen (levels depth : Nat) (m : Method) :
    m.lines (levels + depth) = (m.lines depth).map (Line.deepen levels) := by
  have hcode : m.codeLines (levels + depth) = (m.codeLines depth).map (Line.deepen levels) := by
    rw [codeLines, codeLines, Nat.add_assoc, Code.lines_deepen]
    simp [Line.deepen]
  rw [lines, lines, hcode, List.map_append]
  cases m.doc with
  | none => rfl
  | some doc => rw [Option.elim_some, Option.elim_some, Comment.lines_deepen]

/-! ### Texts that do not go over a line -/

theorem Code.newline_notMem_lines {c : Code} (h : c.All ('\n' ∉ ·)) (depth : Nat) :
    ∀ l ∈ c.lines depth, '\n' ∉ l.text := by
  induction c generalizing depth with
  | done => simp [lines]
  | line text next ih =>
    rw [lines, List.forall_mem_cons]
    exact ⟨h.1, ih h.2 depth⟩
  | blank next ih =>
    rw [lines, List.forall_mem_cons]
    exact ⟨List.not_mem_nil, ih h depth⟩
  | block head body next ihbody ihnext =>
    have hhead : '\n' ∉ head ++ (" \x7b" : Text) := by simp [h.1]
    rw [lines, List.forall_mem_cons, List.forall_mem_append, List.forall_mem_cons]
    exact ⟨hhead, ihbody h.2.1 (depth + 1), by simp, ihnext h.2.2 depth⟩

/-- Holds of a method that has line breaks in its documentation at most. -/
structure Method.Unbroken (m : Method) : Prop where
  name : '\n' ∉ m.name
  returnType : ∀ type ∈ m.returnType, '\n' ∉ type
  params : ∀ p ∈ m.params, '\n' ∉ p.type ∧ '\n' ∉ p.name
  body : m.body.All ('\n' ∉ ·)

theorem Method.Unbroken.newline_notMem_signature {m : Method} (h : m.Unbroken) :
    '\n' ∉ m.signature := by
  have hlist : '\n' ∉ List.intercalate ", " (m.params.map Param.text) := by
    refine notMem_intercalate (by decide) (List.forall_mem_map.mpr fun p hp => ?_)
    simp [Param.text, h.params p hp]
  unfold signature
  cases hm : m.returnType with
  | none => simpa [h.name] using hlist
  | some type => simpa [h.name, h.returnType type hm] using hlist

theorem Method.Unbroken.newline_notMem_lines {m : Method} (h : m.Unbroken) (depth : Nat) :
    ∀ l ∈ m.lines depth, '\n' ∉ l.text := by
  rw [lines, List.forall_mem_append, codeLines, List.forall_mem_cons, List.forall_mem_append]
  refine ⟨?_, ?_, Code.newline_notMem_lines h.body (depth + 1), by simp⟩
  · cases m.doc with
    | none => simp
    | some doc => exact Comment.newline_notMem_lines depth doc
  · simp [h.newline_notMem_signature]

/-! ### Operations at a level -/

namespace Writer

/-- An operation that leaves the level as it was, and writes at every level what it writes on a new
writer, indented. -/
structure Relocates (op : Writer → Writer) : Prop where
  unit (w : Writer) : (op w).unit = w.unit
  level (w : Writer) : (op w).level = w.level
  text (w : Writer) : (op w).text = w.text ++ indentLines w.width (op (new w.unit)).text

/-- To add lines that depend on the level only by their depth. -/
theorem relocates_of_lines {op : Writer → Writer} (lines : Nat → List Line)
    (hop : ∀ w, op w = w.add (lines w.level)) (hnewline : ∀ l ∈ lines 0, '\n' ∉ l.text)
    (hdeepen : ∀ level, lines level = (lines 0).map (Line.deepen level)) : Relocates op where
  unit w := by rw [hop, unit_add]
  level w := by rw [hop, level_add]
  text w := by
    have hnew : (op (new w.unit)).text = renderLines w.unit (lines 0) := by
      rw [hop, text_add, text_new, List.nil_append]
      rfl
    rw [hop, text_add, hdeepen, hnew, renderLines_deepen _ _ hnewline, width]

/-- Code and methods without line breaks are written at every indentation as on a new writer, with
the spaces before each line that is not empty. -/
theorem relocates_code_method :
    (∀ c : Code, c.All ('\n' ∉ ·) → Relocates (·.code c)) ∧
      ∀ m : Method, m.Unbroken → Relocates (·.method m) := by
  refine ⟨fun c hc => ?_, fun m hm => ?_⟩
  · exact relocates_of_lines c.lines (fun w => code_eq_add w c)
      (Code.newline_notMem_lines hc 0) fun level => Code.lines_deepen level 0 c
  · exact relocates_of_lines m.lines (fun w => method_eq_add w m)
      (hm.newline_notMem_lines 0) fun level => Method.lines_deepen level 0 m

/-- A method with a block in a block, empty lines and a comment of several lines. -/
def nestedMethod : Method where
  doc := some "The size\n\nof all."
  returnType := some "int"
  name := "size"
  params := [⟨"int", "a"⟩, ⟨"int[]", "b"⟩]
  body := .block "if (a > 0)" (.blank (.block "for (;;)" (.line "a();" .done) .done))
    (.blank (.line "return a;" .done))

theorem relocates_code_method_nested :
    (nestedMethod.body.All ('\n' ∉ ·) ∧ Relocates (·.code nestedMethod.body)) ∧
      nestedMethod.Unbroken ∧ Relocates (·.method nestedMethod) := by
  have hbody : nestedMethod.body.All ('\n' ∉ ·) := by simp [nestedMethod, Code.All]
  have hmethod : nestedMethod.Unbroken :=
    ⟨by decide, by simp [nestedMethod], by simp [nestedMethod], hbody⟩
  exact ⟨⟨hbody, relocates_code_method.1 _ hbody⟩, hmethod, relocates_code_method.2 _ hmethod⟩

example : ((new 2).indent.code (.block "if (a)" (.blank (.line "b();" .done)) .done)).text =
    ("  if (a) \x7b\n\n    b();\n  \x7d\n" : String) := by
  decide +kernel

end Writer
end Java
end TupleRecord
