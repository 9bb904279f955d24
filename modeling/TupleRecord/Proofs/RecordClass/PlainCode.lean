import TupleRecord.Proofs.FieldType.StorageFit
import TupleRecord.Proofs.Java.Escape
import TupleRecord.Proofs.Java.Plain
import TupleRecord.Proofs.RecordClass.Acceptance
import TupleRecord.Proofs.RecordClass.Lines

/-!
What a class writes is plain: every line of an accepted template's source that is not in a comment
is put together from statements, which are made of names, types and fixed text, and from braces; the
only literals in it are the names of the fields behind their constants.
-/
namespace TupleRecord

open Java

/-- A method that is written as statements between braces. -/
structure Java.Method.Formed (m : Method) : Prop where
  signature : Statement m.signature
  body : m.body.All Statement

theorem Java.Method.Formed.plain_codeLines {m : Method} (h : m.Formed) (depth : Nat) :
    ∀ l ∈ m.codeLines depth, Plain l.text := by
  simp only [codeLines, List.forall_mem_cons, List.forall_mem_append, plain_append]
  exact ⟨⟨h.signature.flat.plain, by decide⟩, Code.plain_lines h.body (depth + 1), rfl, by simp⟩

namespace Tuple

theorem Getter.flat_call {g : Getter} {constant : Text} (h : Flat constant) :
    Flat (g.call constant) := by
  cases g <;> simp +decide only [Getter.call, flat_append, h, and_self]

theorem Setter.statement_call {setter : Setter} {constant value : Text} (hconstant : Flat constant)
    (hvalue : Flat value) : Statement (setter.call constant value) := by
  refine ⟨?_, rfl, ends_append (by decide) _⟩
  cases setter <;> simp +decide only [Setter.call, flat_append, hconstant, hvalue, and_self]

end Tuple

namespace Storage

/-- What a getter does is made of statements if the type and the expression have no braces. -/
theorem all_unpack {sourceType loaded : Text} {storage : Storage} (htype : Flat sourceType)
    (hloaded : Flat loaded) (helement : ∀ element, storage = nestedTuple element →
      Flat element ∧ element.head?.any (· != ' ')) :
    (storage.unpack sourceType loaded).All Statement := by
  have hreturn {value : Text} (hvalue : Flat value) : Statement ("return " ++ value ++ ";") := by
    refine ⟨?_, rfl, ends_append (by decide) _⟩
    simp +decide only [flat_append, hvalue, and_self]
  cases storage with
  | nestedTuple element =>
    obtain ⟨helement, hbegins⟩ := helement element rfl
    have hread : Statement ("Tuple tuple = (Tuple)" ++ loaded ++ ";") := by
      refine ⟨?_, rfl, ends_append (by decide) _⟩
      simp +decide only [flat_append, hloaded, and_self]
    have harray : Statement (element ++ "[] result = new " ++ element ++ "[tuple.size()];") := by
      refine ⟨?_, ?_, ends_append (by decide) _⟩
      · simp +decide only [flat_append, helement, and_self]
      · cases element with
        | nil => cases hbegins
        | cons c element => exact hbegins
    have hcopy : Statement ("result[i] = (" ++ element ++ ")tuple.getObject(i);") := by
      refine ⟨?_, rfl, ends_append (by decide) _⟩
      simp +decide only [flat_append, helement, and_self]
    exact ⟨hread, by decide, ⟨by decide, trivial⟩, harray, by decide, ⟨hcopy, trivial⟩, by decide,
      trivial⟩
  | direct getter =>
    have hcast : Flat ((if getter.needsCast then "(" ++ sourceType ++ ")" else []) ++ loaded) := by
      split <;> simp +decide only [flat_append, htype, hloaded, and_self]
    refine ⟨?_, trivial⟩
    rw [List.append_assoc "return ".toList]
    exact hreturn hcast
  | int32 | int64 => exact ⟨hreturn hloaded, trivial⟩
  | ordinal | epochMillis | uuidText =>
    refine ⟨⟨?_, rfl, ends_append (by decide) _⟩, trivial⟩
    simp +decide only [flat_append, htype, hloaded, and_self]

theorem flat_pack {storage : Storage} {name : Text} (h : Flat name) : Flat (storage.pack name) := by
  cases storage <;> simp +decide only [pack, flat_append, h, and_self]

theorem flat_element {t : FieldType} (h : t.Named) {element : Text}
    (hstorage : ofType t = nestedTuple element) :
    Flat element ∧ element.head?.any (· != ' ') := by
  have hfits := fits_ofType h
  rw [hstorage] at hfits
  cases hfits with
  | nestedTuple _ reference =>
    have hdotted := Name.all_isDottedChar_of_isQualified reference
    exact ⟨flat_of_qualified reference, begins_of_type
      (Text.all_mono hdotted fun _ => Name.isTypeChar_of_isDottedChar)
      (Name.ne_nil_of_isQualified reference)⟩

end Storage

namespace Field.Valid

variable {f : Field}

theorem flat_sourceType (h : f.Valid) : Flat f.column.sourceType :=
  flat_of_type (FieldType.all_isTypeChar_sourceName h.type)

theorem flat_bareName (h : f.Valid) : Flat f.bareName := flat_of_word h.bareName_word

theorem flat_constant (h : f.Valid) : Flat f.constant := flat_of_word h.constant_word

theorem flat_setter (h : f.Valid) : Flat f.setter := flat_of_word h.setter_word

theorem flat_getter (h : f.Valid) : Flat f.getter := flat_of_word h.getter_word

end Field.Valid

namespace Column

variable {f : Field}

theorem setter_formed (h : f.Valid) : f.column.setter.Formed where
  signature := by
    apply Method.statement_signature h.flat_setter
    · simpa [setter, param] using ⟨h.flat_sourceType, h.flat_bareName⟩
    · simp +decide [setter]
  body := Code.all_ofLines.mpr (List.forall_mem_singleton.mpr
    (Tuple.Setter.statement_call h.flat_constant (Storage.flat_pack h.flat_bareName)))

theorem getter_formed (h : f.Valid) : f.column.getter.Formed where
  signature := by
    apply Method.statement_signature h.flat_getter
    · simp [getter]
    · simpa [getter] using h.flat_sourceType
  body := Storage.all_unpack h.flat_sourceType (Tuple.Getter.flat_call h.flat_constant)
    fun _ helement => Storage.flat_element h.type helement

end Column

namespace Accepted

open RecordClass

variable {s : Settings} {t : Template}

theorem flat_className (h : Accepted s t) : Flat (t.className s) :=
  flat_of_word (Name.all_isWordChar_of_isUsable h.className)

theorem flat_imports (h : Accepted s t) : ∀ name ∈ imports s.baseRecord, Flat name := by
  unfold imports
  split
  · simp only [List.forall_mem_append, List.forall_mem_singleton]
    exact ⟨by decide, flat_of_qualified h.base⟩
  · decide

theorem flat_package (h : Accepted s t) : Flat t.package := by
  rcases h.valid.package with hempty | hqualified
  · rw [hempty]
    rfl
  · exact flat_of_qualified hqualified

/-- The lines before the class are statements or empty. -/
theorem statement_prologueLines (h : Accepted s t) :
    ∀ l ∈ prologueLines s.baseRecord t.package, l.text = [] ∨ Statement l.text := by
  have hpackage := h.flat_package
  refine forall_mem_prologueLines (p := fun text => text = [] ∨ Statement text) (.inl rfl)
    (.inr ⟨?_, rfl, ends_append (by decide) _⟩)
    fun name hname => .inr ⟨?_, rfl, ends_append (by decide) _⟩
  · simp +decide only [flat_append, hpackage, and_self]
  · have himport := h.flat_imports name hname
    simp +decide only [flat_append, himport, and_self]

theorem flat_declaration (h : Accepted s t) :
    Flat ((t.recordClass s).declaration s.baseRecord) := by
  have hbase : Flat (Name.simple s.baseRecord) := by
    have hsuffix : Name.simple s.baseRecord <:+ s.baseRecord := Text.afterLast_isSuffix '.' _
    have hflat := flat_of_qualified h.base
    rw [Flat, List.all_eq_true] at hflat ⊢
    intro c hc
    exact hflat c (hsuffix.subset hc)
  have hname := h.flat_className
  have htext : (t.recordClass s).declaration s.baseRecord =
      "public class " ++ t.className s ++ " extends " ++ Name.simple s.baseRecord := rfl
  rw [htext]
  simp +decide only [flat_append, hbase, hname, and_self]

/-- The literal is all that is not plain in the line of a constant. -/
theorem namesInCall_constantLine (h : Accepted s t) {f : Field} (hf : f ∈ t.fields) :
    NamesInCall (constantLine (t.className s) f) := by
  have hconstant := (h.valid.fields f hf).flat_constant
  have hname := h.flat_className
  refine ⟨"public static final String " ++ f.constant ++ " = fieldName(" ++ t.className s ++
    ".class, ", f.bareName, ?_, (h.valid.fields f hf).bareName_word, rfl⟩
  simp +decide only [flat_append, hconstant, hname, and_self]

theorem flat_constants (h : Accepted s t) : ∀ name ∈ t.fields.map Field.constant, Flat name := by
  rw [List.forall_mem_map]
  exact fun f hf => (h.valid.fields f hf).flat_constant

/-- The lines before the members are plain but for the literals of the constants. -/
theorem headLines_plain (h : Accepted s t) :
    ∀ l ∈ (t.recordClass s).headLines s, Plain l.text ∨ NamesInCall l.text := by
  have hprologue : ∀ l ∈ prologueLines s.baseRecord t.package, Plain l.text := by
    intro l hl
    rcases h.statement_prologueLines l hl with hempty | hstatement
    · rw [hempty]
      rfl
    · exact hstatement.flat.plain
  have hdeclaration : Plain ((t.recordClass s).declaration s.baseRecord ++ " \x7b") :=
    plain_append.mpr ⟨h.flat_declaration.plain, by decide⟩
  have hnames : ∀ name ∈ t.fields.map Field.constant, Plain name ∧ Plain (name ++ ",") := by
    intro name hname
    have hplain := (h.flat_constants name hname).plain
    exact ⟨hplain, plain_append.mpr ⟨hplain, by decide⟩⟩
  have hsingle : Plain (fieldsSingle (t.fields.map Field.constant)) := by
    have hlist : Plain (List.intercalate ", " (t.fields.map Field.constant)) :=
      Text.all_intercalate (by decide) fun name hname => (hnames name hname).1
    simp +decide only [fieldsSingle, plain_append, hlist, and_self]
  have hfields : ∀ l ∈ fieldsLines s.indentWidth 1 s.maxLineWidth (t.fields.map Field.constant),
      Plain l.text :=
    forall_mem_fieldsLines hsingle (by decide) hnames (by decide)
  refine forall_mem_headLines (p := fun text => Plain text ∨ NamesInCall text)
    (fun l hl => .inl (hprologue l hl)) (.inl rfl) (.inl hdeclaration) ?_ ?_
  · rw [Template.fields_recordClass]
    exact fun f hf => .inr (h.namesInCall_constantLine hf)
  · rw [Template.fields_recordClass]
    exact fun l hl => .inl (hfields l hl)

theorem notMem_headLines (h : Accepted s t) {c : Char} (hc : isPlainChar c = false)
    (hquote : c ≠ '"') : ∀ l ∈ (t.recordClass s).headLines s, c ∉ l.text := by
  intro l hl
  rcases h.headLines_plain l hl with htext | htext
  · exact htext.notMem hc
  · exact htext.notMem hc hquote

theorem constructor_formed (h : Accepted s t) {params : List Param} {body : Code}
    (hparams : ∀ p ∈ params, Flat p.type ∧ Flat p.name) (hbody : body.All Statement) :
    ((t.recordClass s).constructor params body).Formed :=
  ⟨Method.statement_signature h.flat_className hparams (by simp [constructor]), hbody⟩

theorem valueConstructor_formed (h : Accepted s t) :
    (t.recordClass s).valueConstructor.Formed := by
  apply h.constructor_formed
  · simp only [Template.recordClass, List.map_map, List.forall_mem_map]
    intro f hf
    have hvalid := h.valid.fields f hf
    exact ⟨hvalid.flat_sourceType, hvalid.flat_bareName⟩
  · rw [Template.fields_recordClass]
    refine ⟨by decide, Code.all_ofLines.mpr (List.forall_mem_map.mpr fun f hf => ?_)⟩
    have hset := (h.valid.fields f hf).flat_setter
    have hname := (h.valid.fields f hf).flat_bareName
    refine ⟨?_, rfl, ends_append (by decide) _⟩
    simp +decide only [assignment, flat_append, hset, hname, and_self]

/-- Every member is made of statements. -/
theorem members_formed (h : Accepted s t) : ∀ m ∈ (t.recordClass s).members, m.Formed := by
  apply forall_mem_members
  · simp only [constructors, List.forall_mem_cons]
    refine ⟨?_, ?_, ?_, h.valueConstructor_formed, by simp⟩
    · exact h.constructor_formed (by simp) ⟨by decide, trivial⟩
    · exact h.constructor_formed (by decide) ⟨by decide, trivial⟩
    · exact h.constructor_formed (by decide) ⟨by decide, by decide, trivial⟩
  · rw [Template.recordClass, List.forall_mem_map]
    intro f hf
    have hvalid := h.valid.fields f hf
    exact ⟨Column.setter_formed hvalid, Column.getter_formed hvalid⟩

/-- Every line of a member below its comment is plain. -/
theorem members_plain (h : Accepted s t) :
    ∀ m ∈ (t.recordClass s).members, ∀ l ∈ m.codeLines 1, Plain l.text :=
  fun m hm => (h.members_formed m hm).plain_codeLines 1

/-- No text that the source is made of breaks its line. -/
theorem newline_notMem_fileLines (h : Accepted s t) :
    ∀ l ∈ (t.recordClass s).fileLines s, '\n' ∉ l.text := by
  have hmembers : ∀ l ∈ (t.recordClass s).members.flatMap memberLines, '\n' ∉ l.text := by
    intro l hl
    obtain ⟨m, hm, hl⟩ := List.mem_flatMap.mp hl
    rw [memberLines, Method.lines, List.mem_cons, List.mem_append] at hl
    rcases hl with rfl | hl | hl
    · exact List.not_mem_nil
    · cases hdoc : m.doc with
      | none => simp [hdoc] at hl
      | some doc =>
        rw [hdoc] at hl
        exact Comment.newline_notMem_lines 1 doc l hl
    · exact (h.members_plain m hm l hl).notMem (by decide)
  unfold fileLines sourceLines
  simp only [List.forall_mem_append]
  exact ⟨by decide, ⟨h.notMem_headLines (by decide) (by decide), hmembers⟩, by decide⟩

end Accepted
end TupleRecord
