import TupleRecord.Proofs.Java.Escape
import TupleRecord.Proofs.Java.Plain
import TupleRecord.Proofs.Java.Reader

/-!
Empty lines and the ends of lines. An empty line separates two parts of a block: what follows it is
a line of the same block, never another empty line and never the end of the block. No line has
blanks behind its text. Both are said of the lines of a source, and hold whatever their indentation.
-/
namespace TupleRecord.Java

/-- Holds of a line that can follow an empty one. -/
def Resumes (line : Text) : Prop := line ≠ [] ∧ (unindent line).head? ≠ some '\x7d'

/-- Holds of lines in which an empty line separates lines of one block. -/
def Spaced (lines : List Text) : Prop := lines.IsChain fun line next => line = [] → Resumes next

/-- Holds of a line without blanks behind its text. -/
def Trimmed (line : Text) : Prop := line.getLast?.all (!Unicode.isWhiteSpace ·)

instance (line : Text) : Decidable (Trimmed line) := inferInstanceAs (Decidable (_ = true))

theorem Trimmed.trimEnd_eq {line : Text} (h : Trimmed line) : Text.trimEnd line = line := by
  rw [Trimmed, ← List.head?_reverse] at h
  rw [Text.trimEnd]
  cases hline : line.reverse with
  | nil => rw [List.dropWhile_nil, ← hline, List.reverse_reverse]
  | cons c rest =>
    rw [hline] at h
    rw [List.dropWhile_cons_of_neg (by simpa using h), ← hline, List.reverse_reverse]

theorem spaced_written {unit : Nat} {lines : List Line} :
    Spaced (lines.map (Line.written unit)) ↔ Spaced (lines.map Line.text) := by
  have hempty (l : Line) : l.written unit = [] ↔ l.text = [] := by
    unfold Line.written
    split <;> simp [*]
  simp only [Spaced, List.isChain_map, Resumes, ne_eq, hempty, Line.unindent_written]

theorem spaced_cons_of_ne {line : Text} (h : line ≠ []) {lines : List Text} :
    Spaced (line :: lines) ↔ Spaced lines := by
  rw [Spaced, List.isChain_cons]
  exact and_iff_right fun _ _ hempty => absurd hempty h

theorem spaced_append_of_ne {a : List Text} (h : ∀ line ∈ a, line ≠ []) {b : List Text} :
    Spaced (a ++ b) ↔ Spaced b := by
  induction a with
  | nil => rfl
  | cons line a ih =>
    rw [List.forall_mem_cons] at h
    rw [List.cons_append, spaced_cons_of_ne h.1, ih h.2]

theorem spaced_blank {lines : List Text} :
    Spaced ([] :: lines) ↔ (∀ line ∈ lines.head?, Resumes line) ∧ Spaced lines := by
  rw [Spaced, List.isChain_cons]
  simp [Spaced]

theorem resumes_append {start : Text} (h : start.head?.any fun c => c != ' ' && c != '\x7d')
    (rest : Text) : Resumes (start ++ rest) := by
  cases start with
  | nil => cases h
  | cons c start =>
    have hc : c ≠ ' ' ∧ c ≠ '\x7d' := by simpa using h
    have hspace : (c :: start ++ rest).head? ≠ some ' ' := by simpa using hc.1
    refine ⟨by simp, ?_⟩
    rw [unindent_of_head hspace]
    simpa using hc.2

theorem Statement.resumes {text : Text} (h : Statement text) (rest : Text) :
    Resumes (text ++ rest) := by
  refine resumes_append ?_ rest
  obtain ⟨hflat, hbegins, -⟩ := h
  cases text with
  | nil => cases hbegins
  | cons c text =>
    have hspace : c ≠ ' ' := by simpa using hbegins
    have hbrace : c ≠ '\x7d' := by
      rintro rfl
      exact hflat.notMem (by decide) List.mem_cons_self
    simp [hspace, hbrace]

theorem trimmed_of_ends {text : Text} (h : text.getLast?.any (!Unicode.isWhiteSpace ·)) :
    Trimmed text := by
  unfold Trimmed
  cases hlast : text.getLast? with
  | none => rfl
  | some c =>
    rw [hlast] at h
    exact h

theorem trimmed_written {unit : Nat} {l : Line} (h : Trimmed l.text) :
    Trimmed (l.written unit) := by
  unfold Line.written
  split
  · rfl
  · next hne =>
    unfold Trimmed
    rw [List.getLast?_append_of_ne_nil _ hne]
    exact h

namespace Code

/-- Holds of code that does not begin with an empty line. -/
def beginsWithText : Code → Bool
  | line .. => true
  | block .. => true
  | _ => false

/-- Holds of code in which every empty line has a statement behind it. -/
def Spaced : Code → Prop
  | done => True
  | line _ next => next.Spaced
  | blank next => next.beginsWithText ∧ next.Spaced
  | block _ body next => body.Spaced ∧ next.Spaced

theorem spaced_ofLines (texts : List Text) : (ofLines texts).Spaced := by
  induction texts with
  | nil => trivial
  | cons text texts ih => exact ih

theorem resumes_lines {c : Code} (hc : c.All Statement) (hbegins : c.beginsWithText)
    (depth : Nat) (lines : List Text) :
    ∀ line ∈ ((c.lines depth).map Line.text ++ lines).head?, Resumes line := by
  cases c with
  | done | blank next => cases hbegins
  | line text next =>
    have htext := hc.1.resumes []
    simpa [Code.lines] using htext
  | block head body next =>
    have hhead := hc.1.resumes " \x7b"
    simpa [Code.lines] using hhead

/-- Behind code may stand whatever may stand behind a statement. -/
theorem spaced_lines {c : Code} (hc : c.All Statement) (hspaced : c.Spaced) (depth : Nat)
    {lines : List Text} (hlines : Java.Spaced lines) :
    Java.Spaced ((c.lines depth).map Line.text ++ lines) := by
  induction c generalizing depth lines with
  | done => exact hlines
  | line text next ih =>
    have htext : text ≠ [] := by
      rintro rfl
      cases hc.1.begins
    exact (spaced_cons_of_ne htext).mpr (ih hc.2 hspaced depth hlines)
  | blank next ih =>
    exact spaced_blank.mpr ⟨@resumes_lines next hc hspaced.1 depth lines,
      ih hc hspaced.2 depth hlines⟩
  | block head body next ihbody ihnext =>
    have hnext := ihnext hc.2.2 hspaced.2 depth hlines
    have hclose : Java.Spaced (("\x7d" : Text) :: ((next.lines depth).map Line.text ++ lines)) :=
      (spaced_cons_of_ne (by decide)).mpr hnext
    have hbody := ihbody hc.2.1 hspaced.1 (depth + 1) hclose
    have hopen : head ++ (" \x7b" : Text) ≠ [] := by simp
    have hblock := (spaced_cons_of_ne hopen).mpr hbody
    simpa [Code.lines] using hblock

theorem trimmed_lines {c : Code} (hc : c.All Statement) (depth : Nat) :
    ∀ l ∈ c.lines depth, Trimmed l.text := by
  induction c generalizing depth with
  | done => simp [lines]
  | line text next ih =>
    rw [lines, List.forall_mem_cons]
    exact ⟨trimmed_of_ends hc.1.ends, ih hc.2 depth⟩
  | blank next ih =>
    rw [lines, List.forall_mem_cons]
    exact ⟨rfl, ih hc depth⟩
  | block head body next ihbody ihnext =>
    rw [lines, List.forall_mem_cons, List.forall_mem_append, List.forall_mem_cons]
    exact ⟨trimmed_of_ends (ends_append (by decide) _), ihbody hc.2.1 (depth + 1), rfl,
      ihnext hc.2.2 depth⟩

end Code

namespace Comment

theorem trimmed_trimEnd (text : Text) : Trimmed (Text.trimEnd text) := by
  rw [Trimmed, Text.trimEnd, List.getLast?_reverse]
  cases hhead : (text.reverse.dropWhile Unicode.isWhiteSpace).head? with
  | none => rfl
  | some c =>
    have hc := List.head?_dropWhile_not Unicode.isWhiteSpace text.reverse
    rw [hhead] at hc
    simpa using hc

theorem trimmed_boxedLine {line : Text} (h : Trimmed line) : Trimmed (boxedLine line) := by
  unfold boxedLine
  split
  · rfl
  · next hne =>
    unfold Trimmed
    rw [List.getLast?_append_of_ne_nil _ hne]
    exact h

/-- No line of a comment is empty or ends with a blank, and the comment can follow an empty line. -/
theorem spacing_layout (doc : Text) :
    (∀ line ∈ layout doc, line ≠ [] ∧ Trimmed line) ∧ ∀ line ∈ (layout doc).head?, Resumes line := by
  have hshown : ∀ line ∈ shown doc, Trimmed line := by
    rw [shown, List.forall_mem_map]
    exact fun line _ => trimmed_trimEnd line
  have hboxed (line : Text) : boxedLine line ≠ [] := by
    unfold boxedLine
    split <;> simp
  rcases layout_eq doc with ⟨-, h⟩ | ⟨line, -, h⟩ | h <;> rw [h]
  · refine ⟨?_, ?_⟩
    · exact List.forall_mem_singleton.mpr ⟨by decide, by decide⟩
    · simp [Resumes, unindent]
  · refine ⟨List.forall_mem_singleton.mpr ⟨by simp, ?_⟩, ?_⟩
    · exact trimmed_of_ends (ends_append (by decide) _)
    · simp [Resumes, unindent]
  · simp only [List.forall_mem_cons, List.forall_mem_append, List.forall_mem_map]
    refine ⟨⟨by decide, fun line hline => ?_, by decide, by simp⟩, ?_⟩
    · exact ⟨hboxed line, trimmed_boxedLine (hshown line hline)⟩
    · simp [Resumes, unindent]

end Comment
end TupleRecord.Java
