import TupleRecord.Proofs.Java.Escape
import TupleRecord.Proofs.Java.Plain
import TupleRecord.Proofs.Java.Reader

/-!
Lines that return what they cast. Such a line is told by its first characters behind the
indentation, so most of what a class writes is seen not to be one without reading on.
-/
namespace TupleRecord.Java

/-- A line that begins to return something in brackets, as a cast is. -/
def ReturnsCast (line : Text) : Prop := ("return (" : Text) <+: unindent line

/-- A text that no line which returns a cast begins with, whatever follows. -/
def Uncast (text : Text) : Prop := ∀ ending, ¬ ReturnsCast (text ++ ending)

theorem Uncast.not_returnsCast {text : Text} (h : Uncast text) : ¬ ReturnsCast text := by
  have hself := h []
  rwa [List.append_nil] at hself

theorem uncast_of_head {c : Char} {text : Text} (h : text.head? = some c) (hspace : c ≠ ' ')
    (hreturn : c ≠ 'r') : Uncast text := by
  intro ending
  have hhead : (text ++ ending).head? = some c := by rw [List.head?_append, h, Option.some_or]
  rw [ReturnsCast, unindent_of_head (by rw [hhead]; simpa using hspace)]
  rintro ⟨rest, hrest⟩
  rw [← hrest] at hhead
  exact hreturn (Option.some.inj hhead).symm

/-- What is returned has its own first character. -/
theorem uncast_return {c : Char} (h : c ≠ '(') (text : Text) :
    Uncast ("return " ++ c :: text) := by
  intro ending hcast
  rw [ReturnsCast, List.append_assoc, unindent_of_head (by simp)] at hcast
  have hbracket : (['('] : Text) <+: c :: (text ++ ending) :=
    (List.prefix_append_right_inj "return ".toList).mp hcast
  exact h (List.cons_prefix_cons.mp hbracket).1.symm

/-- No type or name that another character than a blank ends is a `return`. -/
theorem uncast_dotted {name : Text} {c : Char} (h : name.all Name.isDottedChar)
    (hc : Name.isDottedChar c = false) (hspace : c ≠ ' ') (text : Text) :
    Uncast (name ++ c :: text) := by
  intro ending hcast
  have hhead : (name ++ c :: text ++ ending).head? ≠ some ' ' := by
    cases name with
    | nil => simpa using hspace
    | cons d name =>
      intro hd
      cases hd
      cases h
  rw [ReturnsCast, unindent_of_head hhead, List.append_assoc, List.cons_append] at hcast
  obtain ⟨rest, hrest⟩ := hcast
  have hreturn : ("return" : Text) ++ ' ' :: ('(' :: rest) = name ++ c :: (text ++ ending) := hrest
  have hstop {name : Text} (hname : name.all Name.isDottedChar) :
      ∀ x ∈ name, (!Name.isDottedChar x) = false := by
    simpa using hname
  -- The first character outside a name is the blank on one side, and `c` on the other.
  obtain ⟨-, hblank, -⟩ := @Text.append_cons_inj (fun x => !Name.isDottedChar x) _ _ _ _ _ _
    (hstop (by decide +kernel)) (hstop h) (by decide +kernel) (by simpa using hc) hreturn
  exact hspace hblank.symm

theorem not_returnsCast_of_notMem {text : Text} (h : '(' ∉ text) : ¬ ReturnsCast text := by
  rintro ⟨rest, hrest⟩
  have hmem : '(' ∈ unindent text := hrest ▸ List.mem_append_left _ (by decide)
  exact h ((List.dropWhile_suffix _).subset hmem)

/-- Uncast code has uncast lines. -/
theorem Code.not_returnsCast_lines {c : Code} (h : c.All Uncast) (depth : Nat) :
    ∀ l ∈ c.lines depth, ¬ ReturnsCast l.text := by
  have hempty : ¬ ReturnsCast [] := not_returnsCast_of_notMem List.not_mem_nil
  have hclose : ¬ ReturnsCast "\x7d" := not_returnsCast_of_notMem (by decide)
  induction c generalizing depth with
  | done => simp [lines]
  | line text next ih =>
    rw [lines, List.forall_mem_cons]
    exact ⟨h.1.not_returnsCast, ih h.2 depth⟩
  | blank next ih =>
    rw [lines, List.forall_mem_cons]
    exact ⟨hempty, ih h depth⟩
  | block head body next ihbody ihnext =>
    rw [lines, List.forall_mem_cons, List.forall_mem_append, List.forall_mem_cons]
    exact ⟨h.1 _, ihbody h.2.1 (depth + 1), hclose, ihnext h.2.2 depth⟩

/-- The lines of a comment begin with a slash or a star. -/
theorem Comment.not_returnsCast_lines (depth : Nat) (doc : Text) :
    ∀ l ∈ Comment.lines depth doc, ¬ ReturnsCast l.text := by
  have hstar (text : Text) : ¬ ReturnsCast (" *" ++ text) := by
    have huncast : Uncast ('*' :: text) := uncast_of_head rfl (by decide) (by decide)
    exact huncast.not_returnsCast
  have hslash (text : Text) : ¬ ReturnsCast ("/**" ++ text) := by
    have huncast : Uncast ("/**" ++ text) := uncast_of_head rfl (by decide) (by decide)
    exact huncast.not_returnsCast
  have hboxed (line : Text) : ¬ ReturnsCast (boxedLine line) := by
    unfold boxedLine
    split
    · exact hstar []
    · exact hstar (" " ++ line)
  rw [Comment.lines, List.forall_mem_map]
  rcases layout_eq doc with ⟨-, h⟩ | ⟨line, -, h⟩ | h <;> rw [h]
  · exact List.forall_mem_singleton.mpr (hslash "  */")
  · exact List.forall_mem_singleton.mpr (hslash (" " ++ line ++ " */"))
  · simp only [List.forall_mem_cons, List.forall_mem_append, List.forall_mem_map]
    exact ⟨hslash [], fun line _ => hboxed line, hstar "/", by simp⟩

theorem Method.not_returnsCast_lines {m : Method} (h : m.body.All Uncast) (depth : Nat) :
    ∀ l ∈ m.lines depth, ¬ ReturnsCast l.text := by
  have hsignature : Uncast m.signature := by
    unfold signature
    cases m.returnType with
    | none => exact uncast_of_head rfl (by decide) (by decide)
    | some type => exact uncast_of_head rfl (by decide) (by decide)
  have hdoc : ∀ l ∈ m.doc.elim [] (Comment.lines depth), ¬ ReturnsCast l.text := by
    cases m.doc with
    | none => simp
    | some doc => exact Comment.not_returnsCast_lines depth doc
  simp only [lines, codeLines, List.forall_mem_append, List.forall_mem_cons]
  exact ⟨hdoc, hsignature _, Code.not_returnsCast_lines h (depth + 1),
    not_returnsCast_of_notMem (by decide), by simp⟩

end TupleRecord.Java
