import Mathlib.Data.List.Chain
import TupleRecord.Proofs.Java.Layout
import TupleRecord.Proofs.Text.Pieces

/-!
What escaping keeps out of a comment. Two characters are apart in a text if the one never stands
directly before the other; an escaped text keeps the star apart from the slash and the backslash
from the `u`, and neither the cut into lines nor the box around them brings them together.
-/
namespace TupleRecord

namespace Text

/-- Holds of a text in which `x` never stands directly before `y`. -/
def Apart (x y : Char) (text : Text) : Prop := text.IsChain fun c d => ¬ (c = x ∧ d = y)

variable {x y : Char}

theorem Apart.not_isInfix {text : Text} (h : Apart x y text) : ¬ [x, y] <:+: text := by
  intro hinfix
  have hpair : Apart x y [x, y] := List.IsChain.infix h hinfix
  exact List.isChain_pair.mp hpair ⟨rfl, rfl⟩

theorem Apart.of_isInfix {text part : Text} (h : Apart x y text) (hpart : part <:+: text) :
    Apart x y part :=
  List.IsChain.infix h hpart

@[simp] theorem apart_nil : Apart x y [] := List.isChain_nil

@[simp] theorem apart_cons {c : Char} {text : Text} :
    Apart x y (c :: text) ↔ (c = x → text.head? ≠ some y) ∧ Apart x y text := by
  rw [Apart, List.isChain_cons]
  refine and_congr ?_ Iff.rfl
  cases text with
  | nil => simp
  | cons d text =>
    simp only [List.head?_cons, Option.mem_def, Option.some.injEq, ne_eq]
    constructor
    · intro h hc hd
      exact h d rfl ⟨hc, hd⟩
    · rintro h _ rfl ⟨hc, hd⟩
      exact h hc hd

/-- A start that has no `x` changes nothing. -/
theorem apart_append_of_notMem {a : Text} (h : x ∉ a) {b : Text} :
    Apart x y (a ++ b) ↔ Apart x y b := by
  induction a with
  | nil => rfl
  | cons c a ih =>
    simp only [List.mem_cons, not_or] at h
    rw [List.cons_append, apart_cons, ih h.2]
    exact and_iff_right fun hc => absurd hc.symm h.1

theorem apart_of_notMem {text : Text} (h : x ∉ text) : Apart x y text := by
  have happend := apart_append_of_notMem (y := y) h (b := [])
  simpa using happend

/-- A character of neither kind separates what stands on its two sides. -/
theorem apart_append_cons {c : Char} (hx : c ≠ x) (hy : c ≠ y) {a b : Text} :
    Apart x y (a ++ c :: b) ↔ Apart x y a ∧ Apart x y b := by
  induction a with
  | nil => simp [hx]
  | cons d a ih =>
    have hhead : (a ++ c :: b).head? ≠ some y ↔ a.head? ≠ some y := by
      cases a with
      | nil => simp [hy]
      | cons e a => rfl
    rw [List.cons_append, apart_cons, apart_cons, ih, and_assoc, hhead]

end Text

namespace Java

open Text

namespace Comment

theorem head?_escapeEnd (text : Text) : (escapeEnd text).head? = text.head? := by
  fun_cases escapeEnd text <;> rfl

theorem head?_escapeUnicode_ne (text : Text) (h : text.head? ≠ some 'u') :
    (escapeUnicode text).head? ≠ some 'u' := by
  fun_cases escapeUnicode text with
  | case1 rest => simp
  | case2 c rest hc => exact h
  | case3 => exact h

theorem apart_escapeEnd (text : Text) : Apart '*' '/' (escapeEnd text) := by
  fun_induction escapeEnd text with
  | case1 rest ih => simpa using ih
  | case2 c rest hc ih =>
    rw [apart_cons, head?_escapeEnd]
    refine ⟨fun hstar hslash => ?_, ih⟩
    obtain ⟨rest', rfl⟩ := List.head?_eq_some_iff.mp hslash
    exact hc rest' hstar rfl
  | case3 => exact apart_nil

theorem apart_escapeUnicode (text : Text) : Apart '\\' 'u' (escapeUnicode text) := by
  fun_induction escapeUnicode text with
  | case1 rest ih => simpa using ih
  | case2 c rest hc ih =>
    refine apart_cons.mpr ⟨fun hbackslash => head?_escapeUnicode_ne rest fun hu => ?_, ih⟩
    obtain ⟨rest', rfl⟩ := List.head?_eq_some_iff.mp hu
    exact hc rest' hbackslash rfl
  | case3 => exact apart_nil

/-- The second replacement writes neither a backslash nor a `u`, and moves no text. -/
theorem Apart.escapeEnd {text : Text} (h : Apart '\\' 'u' text) :
    Apart '\\' 'u' (escapeEnd text) := by
  fun_induction Comment.escapeEnd text with
  | case1 rest ih =>
    have hrest := ih (h.of_isInfix ⟨['*', '/'], [], by simp⟩)
    simpa using hrest
  | case2 c rest hc ih =>
    rw [apart_cons] at h ⊢
    exact ⟨by rw [head?_escapeEnd]; exact h.1, ih h.2⟩
  | case3 => exact apart_nil

theorem apart_escape (doc : Text) :
    Apart '*' '/' (escape doc) ∧ Apart '\\' 'u' (escape doc) :=
  ⟨apart_escapeEnd _, Apart.escapeEnd (apart_escapeUnicode doc)⟩

/-- The lines of the text of a comment, before the box. -/
def shown (doc : Text) : List Text := (Text.lines (escape doc)).map Text.trimEnd

theorem apart_of_mem_shown {x y : Char} {doc line : Text} (h : Apart x y (escape doc))
    (hline : line ∈ shown doc) : Apart x y line := by
  obtain ⟨whole, hwhole, rfl⟩ := List.mem_map.mp hline
  exact h.of_isInfix ((trimEnd_isPrefix whole).isInfix.trans (isInfix_of_mem_lines hwhole))

theorem apart_boxedLine {x y : Char} (hx : ' ' ≠ x) (hy : ' ' ≠ y) (hstar : '*' ≠ y) {line : Text}
    (h : Apart x y line) : Apart x y (boxedLine line) := by
  unfold boxedLine
  split
  · simp [hx, hstar]
  · have hbox : (" * " : Text) ++ line = (" *" : Text) ++ ' ' :: line := rfl
    rw [hbox, apart_append_cons hx hy]
    exact ⟨by simp [hx, hstar], h⟩

end Comment

section
variable {x y : Char}

theorem apart_renderLines (hspace : ' ' ≠ x) (hx : '\n' ≠ x) (hy : '\n' ≠ y) {unit : Nat}
    {lines : List Line} :
    Apart x y (renderLines unit lines) ↔ ∀ l ∈ lines, Apart x y l.text := by
  induction lines with
  | nil => simp
  | cons l lines ih =>
    obtain ⟨width, hline⟩ := Writer.indented_append (unit * l.depth) l.text
    have hindent : x ∉ List.replicate width ' ' :=
      fun h => hspace (List.eq_of_mem_replicate h).symm
    rw [renderLines_cons, hline, apart_append_of_notMem hindent, apart_append_cons hx hy, ih,
      List.forall_mem_cons]

end

namespace Comment

theorem layout_eq (doc : Text) :
    (shown doc = [] ∧ layout doc = ["/**  */"]) ∨
      (∃ line, shown doc = [line] ∧ layout doc = ["/** " ++ line ++ " */"]) ∨
      layout doc = ("/**" : Text) :: ((shown doc).map boxedLine ++ [(" */" : Text)]) := by
  unfold layout
  cases hshown : shown doc with
  | nil =>
    unfold shown at hshown
    rw [hshown]
    exact .inl ⟨rfl, rfl⟩
  | cons line rest =>
    unfold shown at hshown
    rw [hshown]
    cases rest with
    | nil => exact .inr (.inl ⟨line, rfl, rfl⟩)
    | cons next rest => exact .inr (.inr rfl)

theorem apart_lines (depth : Nat) (doc : Text) :
    ∀ l ∈ Comment.lines depth doc, Apart '\\' 'u' l.text := by
  have hshown {line : Text} (hline : line ∈ shown doc) : Apart '\\' 'u' line :=
    apart_of_mem_shown (apart_escape doc).2 hline
  rw [Comment.lines, List.forall_mem_map]
  rcases layout_eq doc with ⟨-, h⟩ | ⟨line, hline, h⟩ | h <;> rw [h]
  · simp
  · have hsplit : ("/** " : Text) ++ line ++ " */" = "/** " ++ (line ++ ' ' :: "*/") := by simp
    rw [List.forall_mem_singleton, hsplit, apart_append_of_notMem (by decide),
      apart_append_cons (by decide) (by decide)]
    exact ⟨hshown (by simp [hline]), by simp⟩
  · simp only [List.forall_mem_cons, List.forall_mem_append, List.forall_mem_map]
    refine ⟨by simp, fun line hline => ?_, by simp⟩
    exact apart_boxedLine (by decide) (by decide) (by decide) (hshown hline)

theorem newline_notMem_lines (depth : Nat) (doc : Text) :
    ∀ l ∈ Comment.lines depth doc, '\n' ∉ l.text := by
  have hshown {line : Text} (hline : line ∈ shown doc) : '\n' ∉ line := by
    obtain ⟨whole, hwhole, rfl⟩ := List.mem_map.mp hline
    exact fun h => newline_notMem_of_mem_lines hwhole ((trimEnd_isPrefix whole).subset h)
  have hboxed {line : Text} (hline : line ∈ shown doc) : '\n' ∉ boxedLine line := by
    unfold boxedLine
    split
    · decide
    · simp [hshown hline]
  rw [Comment.lines, List.forall_mem_map]
  rcases layout_eq doc with ⟨-, h⟩ | ⟨line, hline, h⟩ | h <;> rw [h]
  · simp
  · simp [@hshown line (by simp [hline])]
  · simp only [List.forall_mem_cons, List.forall_mem_append, List.forall_mem_map]
    exact ⟨by decide, fun line hline => hboxed hline, by decide, by simp⟩

/-- A comment on its lines is a text between its delimiters that does not end it before. -/
theorem renderLines_lines (unit depth : Nat) (doc : Text) :
    ∃ body : Text,
      renderLines unit (Comment.lines depth doc) =
        List.replicate (unit * depth) ' ' ++ ("/*" ++ body ++ "*/" ++ ['\n']) ∧
      Apart '*' '/' (body ++ ['*']) := by
  have hshown {line : Text} (hline : line ∈ shown doc) : Apart '*' '/' line :=
    apart_of_mem_shown (apart_escape doc).1 hline
  rcases layout_eq doc with ⟨-, h⟩ | ⟨line, hline, h⟩ | h <;> rw [Comment.lines, h]
  · exact ⟨"*  ", by simp [Writer.indented], by simp⟩
  · refine ⟨"* " ++ line ++ " ", by simp [Writer.indented], ?_⟩
    have hsplit : ("* " : Text) ++ line ++ " " ++ ['*'] = '*' :: ' ' :: (line ++ ' ' :: ['*']) := by
      simp
    have hbody : Apart '*' '/' (line ++ ' ' :: ['*']) := by
      rw [apart_append_cons (by decide) (by decide)]
      exact ⟨hshown (by simp [hline]), by simp⟩
    rw [hsplit]
    simpa using hbody
  · refine ⟨"*\n" ++ renderLines unit ((shown doc).map fun line => ⟨depth, boxedLine line⟩) ++
      List.replicate (unit * depth) ' ' ++ " ", by simp [Writer.indented, Function.comp_def], ?_⟩
    -- The end of the box, without its slash, is one more line.
    have hlines : Apart '*' '/' (renderLines unit
        ((shown doc).map (fun line => ⟨depth, boxedLine line⟩) ++ [⟨depth, " *"⟩])) := by
      rw [apart_renderLines (by decide) (by decide) (by decide)]
      simp only [List.forall_mem_append, List.forall_mem_map, List.forall_mem_singleton]
      refine ⟨fun line hline => ?_, by simp⟩
      exact apart_boxedLine (by decide) (by decide) (by decide) (hshown hline)
    have hwhole : Apart '*' '/' ('*' :: '\n' :: renderLines unit
        ((shown doc).map (fun line => ⟨depth, boxedLine line⟩) ++ [⟨depth, " *"⟩])) := by
      simpa using hlines
    refine hwhole.of_isInfix ⟨[], ['\n'], ?_⟩
    simp [Writer.indented]

end Comment
end Java
end TupleRecord
