import TupleRecord.Java.Literal
import TupleRecord.Proofs.Java.Escape
import TupleRecord.Proofs.Java.Plain

/-!
Sources without their comments. `erase` reads a source from the left, in code, in a string literal
or in a block comment, and drops the comments; `codeOf` drops the blanks as well. A text is whole
if it ends where it began, in code, so that what follows it is read as if it stood alone.
-/
namespace TupleRecord.Java

/-- Where a reader of a source stands. -/
inductive Region where
  | code | literal | comment
  deriving DecidableEq, Repr

/-- What is left of a text without its block comments. A comment opens outside of literals only
and ends at the first terminator; a backslash in a literal covers the next character. -/
def erase : Region → Text → Text
  | .code, '/' :: '*' :: rest => erase .comment rest
  | .code, '"' :: rest => '"' :: erase .literal rest
  | .code, c :: rest => c :: erase .code rest
  | .literal, '\\' :: c :: rest => '\\' :: c :: erase .literal rest
  | .literal, '"' :: rest => '"' :: erase .code rest
  | .literal, c :: rest => c :: erase .literal rest
  | .comment, '*' :: '/' :: rest => erase .code rest
  | .comment, _ :: rest => erase .comment rest
  | _, [] => []

/-- A source without its comments and blanks. -/
def codeOf (text : Text) : Text := (erase .code text).filter (!Unicode.isWhiteSpace ·)

/-- Holds of a text that ends in code again, so that it can be read apart from what follows. -/
def Whole (text : Text) : Prop := ∀ rest, codeOf (text ++ rest) = codeOf text ++ codeOf rest

theorem whole_of_erase {text kept : Text}
    (h : ∀ rest, erase .code (text ++ rest) = kept ++ erase .code rest) :
    Whole text ∧ codeOf text = kept.filter (!Unicode.isWhiteSpace ·) := by
  have hnil : erase .code text = kept := by simpa [erase] using h []
  refine ⟨fun rest => ?_, by rw [codeOf, hnil]⟩
  rw [codeOf, h, List.filter_append, codeOf, hnil, codeOf]

theorem Whole.append {a b : Text} (ha : Whole a) (hb : Whole b) : Whole (a ++ b) := by
  intro rest
  rw [List.append_assoc, ha, hb, ha, List.append_assoc]

theorem erase_code_cons {c : Char} (hslash : c ≠ '/') (hquote : c ≠ '"') (rest : Text) :
    erase .code (c :: rest) = c :: erase .code rest := by
  rw [erase.eq_def]
  split <;> simp_all

theorem erase_code_append {text : Text} (h : Plain text) (rest : Text) :
    erase .code (text ++ rest) = text ++ erase .code rest := by
  have hslash : '/' ∉ text := h.notMem (by decide)
  have hquote : '"' ∉ text := h.notMem (by decide)
  clear h
  induction text with
  | nil => rfl
  | cons c text ih =>
    simp only [List.mem_cons, not_or] at hslash hquote
    rw [List.cons_append, erase_code_cons (Ne.symm hslash.1) (Ne.symm hquote.1),
      ih hslash.2 hquote.2, List.cons_append]

theorem whole_of_plain {text : Text} (h : Plain text) : Whole text :=
  (whole_of_erase (erase_code_append h)).1

theorem codeOf_blanks (text : Text) (h : ∀ c ∈ text, c = ' ' ∨ c = '\n') :
    Whole text ∧ codeOf text = [] := by
  have herase (rest : Text) : erase .code (text ++ rest) = text ++ erase .code rest := by
    induction text with
    | nil => rfl
    | cons c text ih =>
      have htext := ih fun d hd => h d (List.mem_cons_of_mem _ hd)
      rw [List.cons_append, erase_code_cons, htext, List.cons_append]
      · rcases h c (by simp) with rfl | rfl <;> decide
      · rcases h c (by simp) with rfl | rfl <;> decide
  refine ⟨(whole_of_erase herase).1, ?_⟩
  rw [(whole_of_erase herase).2, List.filter_eq_nil_iff]
  intro c hc
  rcases h c hc with rfl | rfl <;> decide

/-! The escapes of a literal are read as such, so its quotes are the only ones that count. -/

theorem erase_literal_escapeChar (c : Char) (rest : Text) :
    erase .literal (Literal.escapeChar c ++ rest) =
      Literal.escapeChar c ++ erase .literal rest := by
  unfold Literal.escapeChar
  split_ifs with hquote hbackslash
  all_goals try rfl
  rw [List.singleton_append, List.singleton_append, erase.eq_def]
  split <;> simp_all

theorem erase_literal_append (text rest : Text) :
    erase .literal (text.flatMap Literal.escapeChar ++ rest) =
      text.flatMap Literal.escapeChar ++ erase .literal rest := by
  induction text with
  | nil => rfl
  | cons c text ih =>
    rw [List.flatMap_cons, List.append_assoc, erase_literal_escapeChar, ih, List.append_assoc]

theorem whole_quote (text : Text) : Whole (Literal.quote text) := by
  have herase (rest : Text) :
      erase .code (Literal.quote text ++ rest) = Literal.quote text ++ erase .code rest := by
    have hquote : erase .literal ('"' :: rest) = '"' :: erase .code rest := by rw [erase]
    rw [Literal.quote, List.cons_append, erase, List.append_assoc, List.singleton_append,
      erase_literal_append, hquote]
    simp
  exact (whole_of_erase herase).1

theorem erase_comment_cons {c : Char} {rest : Text} (h : c = '*' → rest.head? ≠ some '/') :
    erase .comment (c :: rest) = erase .comment rest := by
  rw [erase.eq_def]
  split <;> simp_all

/-- A comment ends where its text ends, if no terminator begins before. -/
theorem erase_comment_append {body : Text} (h : Text.Apart '*' '/' (body ++ ['*'])) (rest : Text) :
    erase .comment (body ++ '*' :: '/' :: rest) = erase .code rest := by
  induction body with
  | nil => rw [List.nil_append, erase]
  | cons c body ih =>
    rw [List.cons_append, Text.apart_cons] at h
    have hhead : (body ++ '*' :: '/' :: rest).head? = (body ++ ['*']).head? := by
      cases body <;> rfl
    rw [List.cons_append, erase_comment_cons (by rw [hhead]; exact h.1), ih h.2]

theorem codeOf_comment (unit depth : Nat) (doc : Text) :
    Whole (renderLines unit (Comment.lines depth doc)) ∧
      codeOf (renderLines unit (Comment.lines depth doc)) = [] := by
  obtain ⟨body, htext, hbody⟩ := Comment.renderLines_lines unit depth doc
  have herase (rest : Text) :
      erase .code ("/*" ++ body ++ "*/" ++ rest) = [] ++ erase .code rest := by
    have htext : ("/*" : Text) ++ body ++ "*/" ++ rest =
        '/' :: '*' :: (body ++ '*' :: '/' :: rest) := by
      simp
    rw [htext, erase, erase_comment_append hbody, List.nil_append]
  obtain ⟨hcomment, hnone⟩ := whole_of_erase herase
  obtain ⟨hindent, hblank⟩ := codeOf_blanks (List.replicate (unit * depth) ' ')
    fun c hc => .inl (List.eq_of_mem_replicate hc)
  obtain ⟨hbreak, hfeed⟩ := codeOf_blanks ['\n'] (by simp)
  rw [htext]
  refine ⟨hindent.append (hcomment.append hbreak), ?_⟩
  rw [hindent, hcomment, hblank, hnone, hfeed]
  rfl

theorem whole_indented {text : Text} (h : Whole text) (width : Nat) :
    Whole (Writer.indented width text) := by
  obtain ⟨spaces, hline⟩ := Writer.indented_append width text
  obtain ⟨hindent, -⟩ := codeOf_blanks (List.replicate spaces ' ')
    fun c hc => .inl (List.eq_of_mem_replicate hc)
  obtain ⟨hbreak, -⟩ := codeOf_blanks ['\n'] (by simp)
  have htext := hline []
  rw [List.append_nil] at htext
  rw [htext]
  exact hindent.append (h.append hbreak)

theorem whole_renderLines (unit : Nat) {lines : List Line} (h : ∀ l ∈ lines, Whole l.text) :
    Whole (renderLines unit lines) := by
  induction lines with
  | nil => exact (codeOf_blanks [] (by simp)).1
  | cons l lines ih =>
    rw [List.forall_mem_cons] at h
    exact (whole_indented h.1 _).append (ih h.2)

/-- The code of a method is that of the lines below its comment. -/
theorem codeOf_method (unit depth : Nat) {m : Method} (h : ∀ l ∈ m.codeLines depth, Whole l.text) :
    Whole (renderLines unit (m.lines depth)) ∧
      codeOf (renderLines unit (m.lines depth)) =
        codeOf (renderLines unit (m.codeLines depth)) := by
  have hcode := whole_renderLines unit h
  rw [Method.lines, renderLines_append]
  cases m.doc with
  | none => exact ⟨hcode, rfl⟩
  | some doc =>
    obtain ⟨hcomment, hnone⟩ := codeOf_comment unit depth doc
    refine ⟨hcomment.append hcode, ?_⟩
    rw [Option.elim_some, hcomment, hnone, List.nil_append]

end TupleRecord.Java
