import TupleRecord.Proofs.Java.Spacing
import TupleRecord.Proofs.Text.Replace

/-!
Reading comments back. A reader that takes the indentation and the box off a comment, and puts
back the characters that were escaped, sees the lines of the documentation without the blanks at
their ends. Only a documentation that has one of the two references itself is read differently.
-/
namespace TupleRecord.Java

open Text

namespace Comment

/-! ### The reader -/

/-- Puts back the slash of every comment end. -/
def restoreEnd : Text → Text
  | '*' :: '&' :: '#' :: '4' :: '7' :: ';' :: rest => "*/" ++ restoreEnd rest
  | c :: rest => c :: restoreEnd rest
  | [] => []

/-- Puts back the backslash of every unicode escape. -/
def restoreUnicode : Text → Text
  | '&' :: '#' :: '9' :: '2' :: ';' :: 'u' :: rest => "\\u" ++ restoreUnicode rest
  | c :: rest => c :: restoreUnicode rest
  | [] => []

def restore (text : Text) : Text := restoreUnicode (restoreEnd text)

/-- What follows the star of a boxed line, without the blank between them. -/
def unboxed? (line : Text) : Option Text :=
  (dropStart? " *" line).map fun rest => (dropStart? " " rest).getD rest

/-- The lines between the delimiters of a comment. -/
def unwrapped? : List Text → Option (List Text)
  | [] => none
  | [line] => ((dropStart? "/** " line).bind (dropEnd? " */")).map ([·])
  | first :: rest =>
    if first = "/**" ∧ rest.getLast? = some " */" then rest.dropLast.mapM unboxed? else none

/-- The lines of the text of a comment that stands behind `width` spaces, if there is nothing but
the comment on its lines. -/
def read? (width : Nat) (text : Text) : Option (List Text) :=
  let pieces := split '\n' text
  if pieces.getLast? = some [] then
    (pieces.dropLast.mapM (dropStart? (List.replicate width ' '))).bind unwrapped?
  else none

/-- Holds of a text with neither of the references that escaping writes. -/
def Unreferenced (text : Text) : Prop :=
  ¬ ("&#92;u" : Text) <:+: text ∧ ¬ ("*&#47;" : Text) <:+: text

theorem Unreferenced.of_isInfix {text part : Text} (h : Unreferenced text)
    (hpart : part <:+: text) : Unreferenced part :=
  ⟨fun hwithin => h.1 (hwithin.trans hpart), fun hwithin => h.2 (hwithin.trans hpart)⟩

/-! ### What is replaced -/

theorem replaced_escapeUnicode (text : Text) :
    Replaced "\\u" "&#92;u" text (escapeUnicode text) := by
  fun_induction escapeUnicode text with
  | case1 rest ih => exact .swap ih
  | case2 c rest hc ih => exact ih.cons_of_ne hc
  | case3 => exact .nil

theorem replaced_escapeEnd (text : Text) : Replaced "*/" "*&#47;" text (escapeEnd text) := by
  fun_induction escapeEnd text with
  | case1 rest ih => exact .swap ih
  | case2 c rest hc ih => exact ih.cons_of_ne hc
  | case3 => exact .nil

theorem replaced_restoreUnicode (text : Text) :
    Replaced "&#92;u" "\\u" text (restoreUnicode text) := by
  fun_induction restoreUnicode text with
  | case1 rest ih => exact .swap ih
  | case2 c rest hc ih => exact ih.cons_of_ne hc
  | case3 => exact .nil

theorem replaced_restoreEnd (text : Text) : Replaced "*&#47;" "*/" text (restoreEnd text) := by
  fun_induction restoreEnd text with
  | case1 rest ih => exact .swap ih
  | case2 c rest hc ih => exact ih.cons_of_ne hc
  | case3 => exact .nil

/-- What was escaped is restored. -/
theorem restore_escape {text : Text} (h : Unreferenced text) : restore (escape text) = text := by
  -- The references of the first replacement do not make one of the second.
  have hend : ¬ ("*&#47;" : Text) <:+: escapeUnicode text := fun hwithin =>
    h.2 ((replaced_escapeUnicode text).isInfix (by decide) (by decide) (by decide) hwithin)
  have hopen : restoreEnd (escape text) = escapeUnicode text :=
    (replaced_restoreEnd _).unique (by decide) ((replaced_escapeEnd _).undo (by decide) hend)
  rw [restore, hopen]
  exact (replaced_restoreUnicode _).unique (by decide)
    ((replaced_escapeUnicode text).undo (by decide) h.1)

/-- An escaped text has nothing left to escape. -/
theorem escape_escape (text : Text) : escape (escape text) = escape text := by
  obtain ⟨hend, hunicode⟩ := apart_escape text
  have hsame : escapeUnicode (escape text) = escape text :=
    (replaced_escapeUnicode _).eq_self hunicode.not_isInfix
  rw [escape, hsame]
  exact (replaced_escapeEnd _).eq_self hend.not_isInfix

/-! ### Lines -/

theorem escape_append_cons {c : Char} (hc : c ∉ ("\\u*/" : Text)) (a b : Text) :
    escape (a ++ c :: b) = escape a ++ c :: escape b := by
  have hunicode : escapeUnicode (a ++ c :: b) = escapeUnicode a ++ c :: escapeUnicode b :=
    (replaced_escapeUnicode _).unique (by decide) ((replaced_escapeUnicode a).append_cons
      (by decide) (fun h => hc (List.mem_append_left ['*', '/'] h)) (replaced_escapeUnicode b))
  rw [escape, hunicode]
  exact (replaced_escapeEnd _).unique (by decide) ((replaced_escapeEnd _).append_cons
    (by decide) (fun h => hc (List.mem_append_right ['\\', 'u'] h)) (replaced_escapeEnd _))

theorem escape_eq_nil_iff {text : Text} : escape text = [] ↔ text = [] := by
  rw [escape, (replaced_escapeEnd _).eq_nil_iff (by decide) (by decide),
    (replaced_escapeUnicode _).eq_nil_iff (by decide) (by decide)]

theorem newline_notMem_escape {text : Text} (h : '\n' ∉ text) : '\n' ∉ escape text := by
  intro hmem
  rcases (replaced_escapeEnd _).mem hmem with hmem | hmem
  · rcases (replaced_escapeUnicode _).mem hmem with hmem | hmem
    · exact h hmem
    · exact absurd hmem (by decide)
  · exact absurd hmem (by decide)

/-- Line feeds are not escaped, and nothing is escaped across them. -/
theorem split_escape (doc : Text) : split '\n' (escape doc) = (split '\n' doc).map escape := by
  have hjoin (pieces : List Text) : escape (List.intercalate ['\n'] pieces) =
      List.intercalate ['\n'] (pieces.map escape) := by
    induction pieces with
    | nil => rfl
    | cons piece pieces ih =>
      cases pieces with
      | nil => rw [List.map_singleton, List.intercalate_singleton, List.intercalate_singleton]
      | cons next pieces =>
        rw [List.map_cons, List.map_cons, List.intercalate_cons_cons, List.intercalate_cons_cons,
          List.append_assoc, List.append_assoc, List.singleton_append,
          escape_append_cons (by decide), ih]
        rfl
  have hpieces : ∀ piece ∈ (split '\n' doc).map escape, '\n' ∉ piece :=
    List.forall_mem_map.mpr fun piece hpiece => newline_notMem_escape (notMem_of_mem_split hpiece)
  have hne : (split '\n' doc).map escape ≠ [] :=
    mt List.map_eq_nil_iff.mp (splitBy_ne_nil _ doc)
  calc split '\n' (escape doc)
      = split '\n' (escape (List.intercalate ['\n'] (split '\n' doc))) := by rw [intercalate_split]
    _ = split '\n' (List.intercalate ['\n'] ((split '\n' doc).map escape)) := by rw [hjoin]
    _ = (split '\n' doc).map escape := split_intercalate hne hpieces

theorem trimmed_escape {line : Text} (h : Trimmed line) : Trimmed (escape line) := by
  unfold Trimmed at h ⊢
  rcases (replaced_escapeEnd (escapeUnicode line)).getLast?_eq (by decide) (by decide) with he | he
  · rcases (replaced_escapeUnicode line).getLast?_eq (by decide) (by decide) with hu | hu
    · rw [escape, he, hu, h]
    · rw [escape, he, hu]
      decide
  · rw [escape, he]
    decide

/-- Escaping adds no blank at an end and takes none away. -/
theorem trimEnd_escape (line : Text) : trimEnd (escape line) = escape (trimEnd line) := by
  induction line using List.reverseRecOn with
  | nil => rfl
  | append_singleton line c ih =>
    by_cases hblank : Unicode.isWhiteSpace c
    · have hplain : c ∉ ("\\u*/" : Text) := by
        have hnone : ("\\u*/" : Text).all fun d => !Unicode.isWhiteSpace d := by decide
        exact fun hmem => by simpa [hblank] using List.all_eq_true.mp hnone c hmem
      rw [escape_append_cons hplain]
      exact (trimEnd_append_singleton hblank _).trans
        (ih.trans (congrArg escape (trimEnd_append_singleton hblank line).symm))
    · have hline : Trimmed (line ++ [c]) := by simpa [Trimmed] using hblank
      rw [hline.trimEnd_eq, (trimmed_escape hline).trimEnd_eq]

/-- The lines that a comment shows are those of its text, escaped. -/
theorem shown_eq (doc : Text) : shown doc = ((Text.lines doc).map trimEnd).map escape := by
  have hpiece (piece : Text) : trimEnd (dropReturn (escape piece)) =
      escape (trimEnd (dropReturn piece)) := by
    rw [trimEnd_dropReturn, trimEnd_dropReturn, trimEnd_escape]
  rw [shown, Text.lines, Text.lines, split_escape]
  generalize split '\n' doc = pieces
  simp only [List.map_append, List.map_map]
  congr 1
  · rw [← List.map_dropLast, List.map_map]
    exact List.map_congr_left fun piece _ => hpiece piece
  · rw [List.getLast?_map]
    cases pieces.getLast? with
    | none => rfl
    | some piece =>
      by_cases hnil : piece = []
      · simp [hnil, escape_eq_nil_iff, Option.filter]
      · simp [hnil, escape_eq_nil_iff, Option.filter, trimEnd_escape]

theorem shown_eq_nil_iff {doc : Text} : shown doc = [] ↔ doc = [] := by
  rw [shown_eq, List.map_eq_nil_iff, List.map_eq_nil_iff, lines_eq_nil_iff]

theorem map_restore_shown {doc : Text} (h : Unreferenced doc) :
    (shown doc).map restore = (Text.lines doc).map trimEnd := by
  rw [shown_eq, List.map_map]
  conv_rhs => rw [← List.map_id ((Text.lines doc).map trimEnd)]
  refine List.map_congr_left fun line hline => ?_
  obtain ⟨whole, hwhole, rfl⟩ := List.mem_map.mp hline
  exact restore_escape
    (h.of_isInfix ((trimEnd_isPrefix whole).isInfix.trans (isInfix_of_mem_lines hwhole)))

/-! ### The box -/

theorem unboxed?_boxedLine (line : Text) : unboxed? (boxedLine line) = some line := by
  unfold boxedLine
  split
  · next h => rw [h]; decide
  · simp [unboxed?, dropStart?]

theorem mapM_map_eq_some {α β : Type} {f : α → β} {g : β → Option α} (h : ∀ x, g (f x) = some x)
    (xs : List α) : (xs.map f).mapM g = some xs := by
  induction xs with
  | nil => rfl
  | cons x xs ih => simp [h, ih]

theorem unwrapped?_box (lines : List Text) :
    unwrapped? ("/**" :: (lines.map boxedLine ++ [(" */" : Text)])) = some lines := by
  rw [unwrapped?, if_pos ⟨rfl, by simp⟩, List.dropLast_concat,
    mapM_map_eq_some unboxed?_boxedLine]
  simp

/-- The lines inside a comment are those it shows, and one empty line if it shows none. -/
theorem unwrapped?_layout (doc : Text) :
    unwrapped? (layout doc) = some (if shown doc = [] then [[]] else shown doc) := by
  rw [layout, ← shown]
  cases hshown : shown doc with
  | nil => decide
  | cons line rest =>
    cases rest with
    | nil =>
      have hstart : dropStart? "/** " ("/** " ++ line ++ " */") = some (line ++ (" */" : Text)) :=
        dropStart?_eq_some_iff.mpr (by simp)
      have hend : dropEnd? " */" (line ++ (" */" : Text)) = some line :=
        dropEnd?_eq_some_iff.mpr rfl
      simp only [unwrapped?, hstart, Option.bind_some, hend, Option.map_some]
      rfl
    | cons next rest => exact unwrapped?_box (line :: next :: rest)

theorem read?_lines (unit depth : Nat) (doc : Text) :
    read? (unit * depth) (renderLines unit (Comment.lines depth doc)) =
      some (if shown doc = [] then [[]] else shown doc) := by
  have hwritten : (Comment.lines depth doc).map (Line.written unit) =
      (layout doc).map fun line => List.replicate (unit * depth) ' ' ++ line := by
    rw [Comment.lines, List.map_map]
    refine List.map_congr_left fun line hline => ?_
    exact if_neg ((spacing_layout doc).1 line hline).1
  have hnewline : ∀ line ∈ (Comment.lines depth doc).map (Line.written unit), '\n' ∉ line :=
    List.forall_mem_map.mpr fun l hl =>
      Line.newline_notMem_written (newline_notMem_lines depth doc l hl)
  have hsplit := split_unlines hnewline []
  rw [List.append_nil, ← renderLines_eq_unlines, hwritten] at hsplit
  have hlast : split '\n' [] = [[]] := rfl
  rw [hlast] at hsplit
  rw [read?, hsplit, List.getLast?_concat]
  simp only [if_true, List.dropLast_concat]
  rw [mapM_map_eq_some fun line => dropStart?_eq_some_iff.mpr rfl, Option.bind_some,
    unwrapped?_layout]

end Comment

namespace Writer

/-- A comment is read back as the lines of its text without the blanks at their ends, wherever it
was written, unless its text has one of the references that escaping writes; of an empty text one
empty line is left. Escaping again changes nothing, whatever the text. -/
theorem read_doc :
    (∀ (w : Writer) (doc : Text), Comment.Unreferenced doc →
      ∃ added, (w.doc doc).text = w.text ++ added ∧
        (Comment.read? w.width added).map (·.map Comment.restore) =
          some (if doc = [] then [[]] else (Text.lines doc).map trimEnd)) ∧
      ∀ text, Comment.escape (Comment.escape text) = Comment.escape text := by
  refine ⟨fun w doc hdoc => ?_, Comment.escape_escape⟩
  refine ⟨_, by rw [doc_eq_add, text_add], ?_⟩
  rw [width, Comment.read?_lines, Option.map_some]
  by_cases hnil : doc = []
  · rw [if_pos hnil, if_pos (Comment.shown_eq_nil_iff.mpr hnil)]
    rfl
  · rw [if_neg hnil, if_neg (mt Comment.shown_eq_nil_iff.mp hnil), Comment.map_restore_shown hdoc]

/-- Both escapes, a line break with a carriage return, an empty line and a slash at a start. -/
theorem read_doc_escapes :
    ∃ added, ((new 2).indent.doc "ends */ \r\n\n/\\u002a\n").text = (new 2).indent.text ++ added ∧
      (Comment.read? 2 added).map (·.map Comment.restore) =
        some (["ends */", "", "/\\u002a"] : List Text) := by
  have hdoc : Comment.Unreferenced "ends */ \r\n\n/\\u002a\n" :=
    ⟨by decide +kernel, by decide +kernel⟩
  obtain ⟨added, htext, hread⟩ := read_doc.1 (new 2).indent _ hdoc
  refine ⟨added, htext, hread.trans ?_⟩
  decide +kernel

end Writer
end TupleRecord.Java
