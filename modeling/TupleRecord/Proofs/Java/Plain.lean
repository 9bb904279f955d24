import TupleRecord.Java.Literal
import TupleRecord.Proofs.Java.Layout
import TupleRecord.Proofs.Template.Validity
import TupleRecord.Proofs.Text.Pieces

/-!
Plain text: source that neither begins nor ends a comment, a literal or a line. Text without braces
is flat; names, qualified names and source types are flat, and all the statements that a class
writes are put together from them.
-/
namespace TupleRecord

namespace Name

/-- The characters of the types in a source. -/
def isTypeChar (c : Char) : Bool := isDottedChar c || c == '[' || c == ']'

theorem isTypeChar_of_isWordChar {c : Char} (h : isWordChar c) : isTypeChar c := by
  simp [isTypeChar, isDottedChar, h]

theorem isTypeChar_of_isDottedChar {c : Char} (h : isDottedChar c) : isTypeChar c := by
  simp [isTypeChar, h]

end Name

namespace FieldType

theorem all_isTypeChar_sourceName {t : FieldType} (h : t.Named) :
    t.sourceName.all Name.isTypeChar := by
  have hclass {name : Text} (hname : isClassName name) :
      (classSourceName name).all Name.isTypeChar :=
    Text.all_mono (Name.all_isDottedChar_of_isQualified (isQualified_classSourceName hname))
      fun _ hc => Name.isTypeChar_of_isDottedChar hc
  rw [sourceName_eq_sourceForm h]
  cases t with
  | primitive p | boxed p => cases p <;> decide
  | string | date | uuid => decide
  | enumeration name | object name => exact hclass (h name rfl)
  | array element =>
    unfold sourceForm
    rw [List.all_append, hclass (h element rfl)]
    decide

end FieldType

namespace Field.Valid

variable {f : Field}

theorem bareName_word (h : f.Valid) : f.bareName.all Name.isWordChar :=
  Name.all_isWordChar_of_isUsable h.usable

theorem constant_word (h : f.Valid) : f.constant.all Name.isWordChar :=
  Name.all_isWordChar_constant h.bareName_word

theorem setter_word (h : f.Valid) : f.setter.all Name.isWordChar :=
  Name.all_isWordChar_accessor (by decide) h.bareName_word

theorem getter_word (h : f.Valid) : f.getter.all Name.isWordChar :=
  Name.all_isWordChar_accessor (by decide) h.bareName_word

end Field.Valid

namespace Java

/-- Holds of a character that stands for itself wherever it is written. -/
def isPlainChar (c : Char) : Bool := c != '/' && c != '"' && c != '\\' && c != '\n'

def Plain (text : Text) : Prop := text.all isPlainChar

instance (text : Text) : Decidable (Plain text) := inferInstanceAs (Decidable (_ = true))

@[simp] theorem plain_append {a b : Text} : Plain (a ++ b) ↔ Plain a ∧ Plain b := by
  simp [Plain]

theorem Plain.notMem {text : Text} (h : Plain text) {c : Char} (hc : isPlainChar c = false) :
    c ∉ text :=
  Text.notMem_of_all h hc

/-- Holds of a plain character that neither opens nor closes a block. -/
def isFlatChar (c : Char) : Bool := isPlainChar c && c != '\x7b' && c != '\x7d'

/-- Plain text without braces. -/
def Flat (text : Text) : Prop := text.all isFlatChar

instance (text : Text) : Decidable (Flat text) := inferInstanceAs (Decidable (_ = true))

@[simp] theorem flat_append {a b : Text} : Flat (a ++ b) ↔ Flat a ∧ Flat b := by
  simp [Flat]

theorem Flat.notMem {text : Text} (h : Flat text) {c : Char} (hc : isFlatChar c = false) :
    c ∉ text :=
  Text.notMem_of_all h hc

theorem Flat.plain {text : Text} (h : Flat text) : Plain text := by
  refine Text.all_mono h fun c hc => ?_
  simp only [isFlatChar, Bool.and_eq_true] at hc
  exact hc.1.1

theorem flat_of_type {text : Text} (h : text.all Name.isTypeChar) : Flat text := by
  refine Text.all_mono h fun c hc => ?_
  simp only [isFlatChar, isPlainChar, Bool.and_eq_true, bne_iff_ne, ne_eq]
  refine ⟨⟨⟨⟨⟨?_, ?_⟩, ?_⟩, ?_⟩, ?_⟩, ?_⟩ <;> rintro rfl <;> exact absurd hc (by decide)

theorem flat_of_word {text : Text} (h : text.all Name.isWordChar) : Flat text :=
  flat_of_type (Text.all_mono h fun _ hc => Name.isTypeChar_of_isWordChar hc)

theorem flat_of_qualified {name : Text} (h : Name.isQualified name) : Flat name :=
  flat_of_type (Text.all_mono (Name.all_isDottedChar_of_isQualified h)
    fun _ hc => Name.isTypeChar_of_isDottedChar hc)

/-- A text that can have a line of code to itself: it has no brace, and its indentation and its
line feed add no blank to a blank. -/
structure Statement (text : Text) : Prop where
  flat : Flat text
  begins : text.head?.any (· != ' ')
  ends : text.getLast?.any (!Unicode.isWhiteSpace ·)

instance (text : Text) : Decidable (Statement text) :=
  decidable_of_iff (Flat text ∧ text.head?.any (· != ' ') ∧
    text.getLast?.any (!Unicode.isWhiteSpace ·))
    ⟨fun ⟨flat, begins, ends⟩ => ⟨flat, begins, ends⟩, fun ⟨flat, begins, ends⟩ =>
      ⟨flat, begins, ends⟩⟩

/-- No type begins with a blank. -/
theorem begins_of_type {text : Text} (h : text.all Name.isTypeChar) (hne : text ≠ []) :
    text.head?.any (· != ' ') := by
  cases text with
  | nil => exact absurd rfl hne
  | cons c text =>
    have hspace : c ≠ ' ' := by
      rintro rfl
      cases h
    simpa using hspace

/-- The last character of a text is that of its ending. -/
theorem ends_append {ending : Text} {p : Char → Bool} (h : ending.getLast?.any p) (start : Text) :
    (start ++ ending).getLast?.any p := by
  cases hlast : ending.getLast? with
  | none => simp [hlast] at h
  | some c => simpa [List.getLast?_append, hlast] using h

theorem Statement.append {text ending : Text} (h : Statement text) (hflat : Flat ending)
    (hends : ending.getLast?.any (!Unicode.isWhiteSpace ·)) : Statement (text ++ ending) := by
  obtain ⟨htext, hbegins, -⟩ := h
  cases text with
  | nil => cases hbegins
  | cons c text => exact ⟨flat_append.mpr ⟨htext, hflat⟩, hbegins, ends_append hends _⟩

namespace Code

/-- Holds of code whose lines and block heads all have a property. -/
def All (p : Text → Prop) : Code → Prop
  | done => True
  | line text next => p text ∧ next.All p
  | blank next => next.All p
  | block head body next => p head ∧ body.All p ∧ next.All p

theorem all_ofLines {p : Text → Prop} {texts : List Text} :
    (ofLines texts).All p ↔ ∀ text ∈ texts, p text := by
  induction texts with
  | nil => simp [ofLines, All]
  | cons text texts ih => simp only [ofLines, All, ih, List.forall_mem_cons]

/-- Braces are all that the lines of code have besides its statements. -/
theorem plain_lines {c : Code} (h : c.All Statement) (depth : Nat) :
    ∀ l ∈ c.lines depth, Plain l.text := by
  induction c generalizing depth with
  | done => simp [lines]
  | line text next ih =>
    rw [lines, List.forall_mem_cons]
    exact ⟨h.1.flat.plain, ih h.2 depth⟩
  | blank next ih =>
    rw [lines, List.forall_mem_cons]
    exact ⟨rfl, ih h depth⟩
  | block head body next ihbody ihnext =>
    rw [lines, List.forall_mem_cons, List.forall_mem_append, List.forall_mem_cons, plain_append]
    exact ⟨⟨h.1.flat.plain, by decide⟩, ihbody h.2.1 (depth + 1), rfl, ihnext h.2.2 depth⟩

end Code

/-- The literal of a name escapes nothing. -/
theorem Literal.quote_of_word {text : Text} (h : text.all Name.isWordChar) :
    quote text = '"' :: (text ++ ['"']) := by
  have hescape : text.flatMap escapeChar = text := by
    induction text with
    | nil => rfl
    | cons c text ih =>
      rw [List.all_cons, Bool.and_eq_true] at h
      have hc : escapeChar c = [c] := by
        unfold escapeChar
        split_ifs with hquote hbackslash hfeed hreturn htab
        · exact absurd (hquote ▸ h.1) (by decide)
        · exact absurd (hbackslash ▸ h.1) (by decide)
        · exact absurd (hfeed ▸ h.1) (by decide)
        · exact absurd (hreturn ▸ h.1) (by decide)
        · exact absurd (htab ▸ h.1) (by decide)
        · rfl
      rw [List.flatMap_cons, hc, ih h.2, List.singleton_append]
  rw [quote, hescape]

/-- Plain but for the literal of a name, which the call around it ends. -/
def NamesInCall (text : Text) : Prop :=
  ∃ before name : Text, Flat before ∧ name.all Name.isWordChar ∧
    text = before ++ Literal.quote name ++ ");"

/-- Of the characters that are not plain only the quote is in such a text. -/
theorem NamesInCall.notMem {text : Text} (h : NamesInCall text) {c : Char}
    (hc : isPlainChar c = false) (hquote : c ≠ '"') : c ∉ text := by
  obtain ⟨before, name, hbefore, hname, rfl⟩ := h
  have hstart := hbefore.plain.notMem hc
  have hword := (flat_of_word hname).plain.notMem hc
  have hclose : c ∉ (");" : Text) := Plain.notMem (by decide) hc
  rw [Literal.quote_of_word hname]
  simp only [List.mem_append, List.mem_cons, List.not_mem_nil, hstart, hword, hclose, hquote,
    or_self, not_false_eq_true]

theorem Method.statement_signature {m : Method} (hname : Flat m.name)
    (hparams : ∀ p ∈ m.params, Flat p.type ∧ Flat p.name)
    (hreturn : ∀ type ∈ m.returnType, Flat type) : Statement m.signature := by
  have hlist : Flat (List.intercalate ", " (m.params.map Param.text)) := by
    have hparam : ∀ p ∈ m.params, Flat p.text := by
      intro p hp
      have hp := hparams p hp
      simp +decide only [Param.text, flat_append, hp]
    exact Text.all_intercalate (by decide) (List.forall_mem_map.mpr hparam)
  unfold signature
  cases hm : m.returnType with
  | none =>
    refine ⟨?_, rfl, ends_append (by decide) _⟩
    simp +decide only [flat_append, hname, hlist]
  | some type =>
    have htype := hreturn type hm
    refine ⟨?_, rfl, ends_append (by decide) _⟩
    simp +decide only [flat_append, hname, hlist, htype]

end Java
end TupleRecord
