import TupleRecord.Proofs.Java.Cast
import TupleRecord.Proofs.RecordClass.Accessors
import TupleRecord.Proofs.RecordClass.PlainCode

/-!
Refusing untyped fields. The setting that refuses the fields without a typed getter does only that:
what is accepted under it has the same unit without it, and what it adds to the reasons for a
refusal is the first untyped field. A source has a line that casts what it returns exactly if a
field is untyped.
-/
namespace TupleRecord

open Java

namespace Settings

def strict (s : Settings) : Settings := { s with rejectUntyped := true }

def lenient (s : Settings) : Settings := { s with rejectUntyped := false }

end Settings

namespace Field

/-- A field whose value is read by the untyped getter and then cast. -/
def Untyped (f : Field) : Prop := Storage.ofType f.type = .direct .object

instance (f : Field) : Decidable f.Untyped := inferInstanceAs (Decidable (_ = _))

/-- Why the strict settings refuse an untyped field. -/
def untypedError (f : Field) : StorageError := ⟨f.type.jvmName, f.name, .untyped⟩

variable {s : Settings} {f : Field}

theorem storable_strict_iff : f.Storable s.strict ↔ f.Storable s.lenient ∧ ¬ f.Untyped := by
  constructor
  · intro h
    exact ⟨⟨h.flat, nofun⟩, h.typed rfl⟩
  · rintro ⟨h, htyped⟩
    exact ⟨h.flat, fun _ => htyped⟩

theorem ofField_strict_untyped (h : f.Storable s.lenient) (huntyped : f.Untyped) :
    Column.ofField s.strict f = .error f.untypedError := by
  have hflat : f.type.nestedTemplate? s.strict.templateEnding = none := h.flat
  have hrefused : s.strict.rejectUntyped = true ∧ Storage.ofType f.type = .direct .object :=
    ⟨rfl, huntyped⟩
  rw [Column.ofField, hflat]
  exact if_pos hrefused

/-- The first untyped field of some that are accepted otherwise is what the strict settings refuse
them for. -/
theorem mapM_ofField_strict {fields : List Field} (h : ∀ f ∈ fields, f.Storable s.lenient)
    (hfirst : fields.find? (Untyped ·) = some f) :
    fields.mapM (Column.ofField s.strict) = .error f.untypedError := by
  induction fields with
  | nil => cases hfirst
  | cons g fields ih =>
    rw [List.forall_mem_cons] at h
    rw [List.mapM_cons]
    -- A typed field is accepted and the search goes on; an untyped one ends both.
    by_cases huntyped : g.Untyped
    · rw [List.find?_cons_of_pos (by simpa using huntyped)] at hfirst
      cases hfirst
      rw [ofField_strict_untyped h.1 huntyped]
      rfl
    · rw [List.find?_cons_of_neg (by simpa using huntyped)] at hfirst
      have hg := Column.ofField_eq_ok_iff.mpr ⟨storable_strict_iff.mpr ⟨h.1, huntyped⟩, rfl⟩
      rw [hg, ih h.2 hfirst]
      rfl

end Field

theorem Accepted.strict_iff {s : Settings} {t : Template} :
    Accepted s.strict t ↔ Accepted s.lenient t ∧ ∀ f ∈ t.fields, ¬ f.Untyped := by
  constructor
  · intro h
    have hstorable := fun f hf => Field.storable_strict_iff.mp (h.storable f hf)
    exact ⟨{ h with storable := fun f hf => (hstorable f hf).1 }, fun f hf => (hstorable f hf).2⟩
  · rintro ⟨h, htyped⟩
    exact { h with
      storable := fun f hf => Field.storable_strict_iff.mpr ⟨h.storable f hf, htyped f hf⟩ }

namespace CompilationUnit

variable {s : Settings} {t : Template} {u : CompilationUnit}

theorem generate_strict_iff :
    generate s.strict t = .ok u ↔ generate s.lenient t = .ok u ∧ ∀ f ∈ t.fields, ¬ f.Untyped := by
  have hunit : (t.recordClass s.strict).unit s.strict = (t.recordClass s.lenient).unit s.lenient :=
    rfl
  rw [generate_eq_ok_iff, generate_eq_ok_iff, Accepted.strict_iff, hunit]
  tauto

theorem generate_strict_eq_error (h : generate s.lenient t = .ok u) {f : Field}
    (hfirst : t.fields.find? (Field.Untyped ·) = some f) :
    generate s.strict t = .error (.storage f.untypedError) := by
  obtain ⟨haccepted, -⟩ := generate_eq_ok_iff.mp h
  have hplan : t.plan s.strict.templateEnding s.strict.classEnding = .ok ⟨t, t.className s⟩ :=
    Template.plan_eq_ok_iff.mpr ⟨haccepted.valid, haccepted.className, rfl⟩
  have hnames : RecordClass.checkNames s.strict ⟨t, t.className s⟩ = .ok () :=
    RecordClass.checkNames_eq_ok_iff.mpr ⟨haccepted.base, haccepted.extendsOther,
      haccepted.notImported, haccepted.hidesNothing, haccepted.keepsGetClass⟩
  rw [generate, RecordClass.ofTemplate, hplan]
  simp only [Except.mapError, bind, Except.bind, hnames,
    Field.mapM_ofField_strict haccepted.storable hfirst]

end CompilationUnit

namespace Storage

/-- Copying a nested tuple casts it and its elements, but not what is returned. -/
theorem uncast_unpackTuple {element : Text} (h : Name.isQualified element) (loaded : Text) :
    (unpackTuple element loaded).All Uncast := by
  have hread : Uncast ("Tuple tuple = (Tuple)" ++ loaded ++ ";") :=
    uncast_of_head rfl (by decide) (by decide)
  have harray : Uncast (element ++ "[] result = new " ++ element ++ "[tuple.size()];") := by
    have htext : element ++ "[] result = new " ++ element ++ "[tuple.size()];" =
        element ++ '[' :: ("] result = new " ++ element ++ "[tuple.size()];") := by
      simp
    rw [htext]
    exact uncast_dotted (Name.all_isDottedChar_of_isQualified h) (by decide +kernel) (by decide) _
  have hcopy : Uncast ("result[i] = (" ++ element ++ ")tuple.getObject(i);") :=
    @uncast_dotted "result" '[' (by decide +kernel) (by decide +kernel) (by decide) _
  have hnull : Uncast "return null;" := uncast_return (c := 'n') (by decide) _
  have hresult : Uncast "return result;" := uncast_return (c := 'r') (by decide) _
  have hif : Uncast "if (tuple == null)" := uncast_of_head rfl (by decide) (by decide)
  have hfor : Uncast "for (int i = 0; i < result.length; i++)" :=
    uncast_of_head rfl (by decide) (by decide)
  exact ⟨hread, hif, ⟨hnull, trivial⟩, harray, hfor, ⟨hcopy, trivial⟩, hresult, trivial⟩

/-- Only what the untyped getter returns is cast. -/
theorem uncast_unpack {type : Text} {storage : Storage} (hfits : Fits type storage)
    (htyped : storage ≠ .direct .object) (constant : Text) :
    (storage.unpack type (storage.getter.call constant)).All Uncast := by
  cases hfits with
  | nestedTuple array reference => exact uncast_unpackTuple reference _
  | ordinal reference =>
    obtain ⟨c, type, rfl⟩ := List.exists_cons_of_ne_nil (Name.ne_nil_of_isQualified reference)
    have hdotted := Name.all_isDottedChar_of_isQualified reference
    have hc : c ≠ '(' := by
      rintro rfl
      cases hdotted
    exact ⟨uncast_return hc _, trivial⟩
  | epochMillis date => exact ⟨uncast_return (c := 'n') (by decide) _, trivial⟩
  | uuidText uuid => exact ⟨uncast_return (c := 'j') (by decide) _, trivial⟩
  | int32 | int64 => exact ⟨uncast_return (c := '_') (by decide) _, trivial⟩
  | @typed getter returned =>
    have hgetter : getter ≠ .object := fun h => htyped (congrArg _ h)
    rw [unpack_typed _ _ hgetter]
    exact ⟨uncast_return (c := '_') (by decide) _, trivial⟩
  | cast reference => exact absurd rfl htyped

end Storage

namespace Column

variable {f : Field}

theorem uncast_setter (f : Field) : f.column.setter.body.All Uncast :=
  ⟨uncast_of_head rfl (by decide) (by decide), trivial⟩

theorem uncast_getter (h : f.Valid) (htyped : ¬ f.Untyped) : f.column.getter.body.All Uncast :=
  Storage.uncast_unpack (Storage.fits_ofType h.type) htyped f.constant

end Column

namespace Accepted

open RecordClass

variable {s : Settings} {t : Template}

theorem uncast_members (h : Accepted s t) (htyped : ∀ f ∈ t.fields, ¬ f.Untyped) :
    ∀ m ∈ (t.recordClass s).members, m.body.All Uncast := by
  have hstart {text : Text} (hhead : text.head? = some 's') : Uncast text :=
    uncast_of_head hhead (by decide) (by decide)
  have hvalidate : Uncast ("validateFields(tupleEntry, " ++ Tuple.fieldsConstant ++ ");") :=
    uncast_of_head rfl (by decide) (by decide)
  have hassign : ∀ text ∈ (t.recordClass s).fields.map assignment, Uncast text := by
    rw [Template.fields_recordClass, List.forall_mem_map]
    exact fun f _ => hstart rfl
  apply forall_mem_members
  · simp only [constructors, List.forall_mem_cons]
    exact ⟨⟨hstart rfl, trivial⟩, ⟨hstart rfl, trivial⟩, ⟨hstart rfl, hvalidate, trivial⟩,
      ⟨hstart rfl, Code.all_ofLines.mpr hassign⟩, by simp⟩
  · rw [Template.recordClass, List.forall_mem_map]
    intro f hf
    exact ⟨Column.uncast_setter f, Column.uncast_getter (h.valid.fields f hf) (htyped f hf)⟩

/-- Before the members a line begins with a word of its own or has no bracket. -/
theorem not_returnsCast_headLines (h : Accepted s t) :
    ∀ l ∈ (t.recordClass s).headLines s, ¬ ReturnsCast l.text := by
  have hempty : ¬ ReturnsCast [] := not_returnsCast_of_notMem List.not_mem_nil
  have hword {c : Char} {text : Text} (hhead : text.head? = some c) (hspace : c ≠ ' ')
      (hreturn : c ≠ 'r') : ¬ ReturnsCast text :=
    (uncast_of_head hhead hspace hreturn).not_returnsCast
  have hnames : ∀ name ∈ t.fields.map Field.constant,
      ¬ ReturnsCast name ∧ ¬ ReturnsCast (name ++ ",") := by
    rw [List.forall_mem_map]
    intro f hf
    have hbracket : '(' ∉ f.constant :=
      Text.notMem_of_all (h.valid.fields f hf).constant_word (by decide)
    exact ⟨not_returnsCast_of_notMem hbracket, not_returnsCast_of_notMem (by simp [hbracket])⟩
  refine @forall_mem_headLines (fun text => ¬ ReturnsCast text) _ _ ?_ hempty
    (hword rfl (by decide) (by decide)) (fun f _ => hword rfl (by decide) (by decide)) ?_
  · exact @forall_mem_prologueLines (fun text => ¬ ReturnsCast text) _ _ hempty
      (hword rfl (by decide) (by decide)) fun name _ => hword rfl (by decide) (by decide)
  · rw [Template.fields_recordClass]
    exact @forall_mem_fieldsLines (fun text => ¬ ReturnsCast text) _ _ _ _
      (hword rfl (by decide) (by decide)) (hword rfl (by decide) (by decide)) hnames
      (not_returnsCast_of_notMem (by decide))

/-- A class without untyped fields has no line that returns a cast. -/
theorem not_returnsCast_fileLines (h : Accepted s t) (htyped : ∀ f ∈ t.fields, ¬ f.Untyped) :
    ∀ l ∈ (t.recordClass s).fileLines s, ¬ ReturnsCast l.text := by
  have hheader : ∀ l ∈ headerLines, ¬ ReturnsCast l.text := by
    have hbracket : ∀ l ∈ headerLines, '(' ∉ l.text := by decide
    exact fun l hl => not_returnsCast_of_notMem (hbracket l hl)
  have hmembers : ∀ l ∈ (t.recordClass s).members.flatMap memberLines, ¬ ReturnsCast l.text := by
    intro l hl
    obtain ⟨m, hm, hl⟩ := List.mem_flatMap.mp hl
    rcases List.mem_cons.mp hl with rfl | hl
    · exact not_returnsCast_of_notMem List.not_mem_nil
    · exact Method.not_returnsCast_lines (h.uncast_members htyped m hm) 1 l hl
  have hclose : ¬ ReturnsCast "\x7d" := not_returnsCast_of_notMem (by decide)
  unfold fileLines sourceLines
  simp only [List.forall_mem_append, List.forall_mem_singleton]
  exact ⟨hheader, ⟨h.not_returnsCast_headLines, hmembers⟩, hclose⟩

/-- What is read of a source is its lines, and the empty rest behind the last. -/
theorem mem_readLines_source (h : Accepted s t) {line : Text} :
    line ∈ readLines ((t.recordClass s).source s) ↔
      (∃ l ∈ (t.recordClass s).fileLines s, unindent l.text = line) ∨ line = [] := by
  have hread := readLines_renderLines s.indentWidth h.newline_notMem_fileLines []
  rw [List.append_nil] at hread
  rw [source_eq_fileLines, hread, List.mem_append, List.mem_map]
  exact or_congr_right List.mem_singleton

theorem not_returnsCast_readLines (h : Accepted s t) (htyped : ∀ f ∈ t.fields, ¬ f.Untyped) :
    ∀ line ∈ readLines ((t.recordClass s).source s), ¬ ("return (" : Text) <+: line := by
  intro line hline
  obtain ⟨l, hl, rfl⟩ | rfl := h.mem_readLines_source.mp hline
  · exact h.not_returnsCast_fileLines htyped l hl
  · exact not_returnsCast_of_notMem List.not_mem_nil

end Accepted

/-- The line by which an untyped field is returned. -/
def Field.castLine (f : Field) : Text :=
  "return " ++ ("(" ++ f.type.sourceName ++ ")") ++ Storage.load "getObject" f.constant ++ ";"

theorem Field.Untyped.getter_body {f : Field} (h : f.Untyped) :
    f.column.getter.body = .ofLines [f.castLine] := by
  have hbody : f.column.getter.body =
      (Storage.ofType f.type).unpack f.type.sourceName
        ((Storage.ofType f.type).getter.call f.constant) := rfl
  rw [hbody, h]
  rfl

theorem Accepted.castLine_mem {s : Settings} {t : Template} {f : Field} (h : Accepted s t)
    (hf : f ∈ t.fields) (huntyped : f.Untyped) :
    f.castLine ∈ readLines ((t.recordClass s).source s) := by
  have hcolumn : f.column ∈ (t.recordClass s).columns := List.mem_map_of_mem hf
  have hgetter := (RecordClass.accessors_mem_members hcolumn).2
  have hline : (⟨2, f.castLine⟩ : Line) ∈ RecordClass.memberLines f.column.getter := by
    simp [RecordClass.memberLines, Method.lines, Method.codeLines, huntyped.getter_body]
  refine h.mem_readLines_source.mpr (.inl ⟨⟨2, f.castLine⟩, ?_, ?_⟩)
  · simp only [RecordClass.fileLines, RecordClass.sourceLines, List.mem_append]
    exact .inr (.inl (.inr (List.mem_flatMap.mpr ⟨_, hgetter, hline⟩)))
  · have hhead : f.castLine.head? = some 'r' := rfl
    exact unindent_of_head (by rw [hhead]; decide)

/-- Without untyped fields only the nested tuple of an array is read by the untyped getter. -/
theorem Field.Valid.isArray_of_access {f : Field} (h : f.Valid) (htyped : ¬ f.Untyped) :
    ∀ access ∈ f.column.getter.body.accesses, access.method = Tuple.Getter.object.method →
      f.type.isArray := by
  rw [h.getter_accesses, List.forall_mem_singleton]
  intro hmethod
  have hobject (getter : Tuple.Getter) : getter.method = Tuple.Getter.object.method →
      getter = .object := by
    cases getter <;> decide
  have hgetter := hobject _ hmethod
  rw [← Storage.ofType_eq_nestedTuple_iff]
  cases hstorage : Storage.ofType f.type with
  | nestedTuple element => exact ⟨element, rfl⟩
  | direct getter =>
    have hdirect : f.column.storage = .direct getter := hstorage
    rw [hdirect] at hgetter
    exact absurd (hstorage.trans (congrArg _ hgetter)) htyped
  | ordinal | epochMillis | uuidText | int32 | int64 =>
    rw [Field.column, hstorage] at hgetter
    cases hgetter

namespace CompilationUnit

/-- Refusing untyped fields changes nothing else. What is accepted strictly has the same unit
otherwise; its source has no line that returns a cast, and reads only arrays by the untyped getter.
What is accepted otherwise is accepted strictly exactly if it has no untyped field, of which the
first is named, and the source has a line that casts the value of each. -/
theorem generate_strict (s : Settings) (t : Template) :
    (∀ u, generate s.strict t = .ok u →
      generate s.lenient t = .ok u ∧
        (∀ line ∈ readLines u.source, ¬ ("return (" : Text) <+: line) ∧
        ∃ c, RecordClass.ofTemplate s.strict t = .ok c ∧ u = c.unit s.strict ∧
          ∀ column ∈ c.columns, ∀ access ∈ column.getter.body.accesses,
            access.method = Tuple.Getter.object.method → column.field.type.isArray) ∧
      ∀ u, generate s.lenient t = .ok u →
        ((∃ u', generate s.strict t = .ok u') ↔ ∀ f ∈ t.fields, ¬ f.Untyped) ∧
          (∀ f, t.fields.find? (Field.Untyped ·) = some f →
            generate s.strict t = .error (.storage ⟨f.type.jvmName, f.name, .untyped⟩)) ∧
          ∀ f ∈ t.fields, f.Untyped → f.castLine ∈ readLines u.source := by
  constructor
  · intro u hstrict
    obtain ⟨hlenient, htyped⟩ := generate_strict_iff.mp hstrict
    obtain ⟨haccepted, rfl⟩ := generate_eq_ok_iff.mp hstrict
    refine ⟨hlenient, haccepted.not_returnsCast_readLines htyped, t.recordClass s.strict,
      RecordClass.ofTemplate_eq_ok_iff.mpr ⟨haccepted, rfl⟩, rfl, ?_⟩
    rw [Template.recordClass, List.forall_mem_map]
    exact fun f hf => (haccepted.valid.fields f hf).isArray_of_access (htyped f hf)
  · intro u hlenient
    refine ⟨?_, fun f hfirst => generate_strict_eq_error hlenient hfirst, ?_⟩
    · constructor
      · rintro ⟨u', hstrict⟩
        exact (generate_strict_iff.mp hstrict).2
      · intro htyped
        exact ⟨u, generate_strict_iff.mpr ⟨hlenient, htyped⟩⟩
    · obtain ⟨haccepted, rfl⟩ := generate_eq_ok_iff.mp hlenient
      exact fun f hf huntyped => haccepted.castLine_mem hf huntyped

/-- The nested class of the crowded template is untyped, and the rest of it is not. -/
theorem generate_strict_crowded :
    (∃ u, generate ({} : Settings).lenient .crowded = .ok u ∧
      generate ({} : Settings).strict .crowded =
        .error (.storage ⟨"cascading$tuple.Tuple", "inner", .untyped⟩) ∧
      ("return (Tuple)_tupleEntry.getObject(INNER_FN);" : Text) ∈ readLines u.source) ∧
      ∃ t u, t = { Template.crowded with
          fields := Template.crowded.fields.filter fun f => ¬ f.Untyped } ∧
        t.fields.length = 4 ∧ generate ({} : Settings).strict t = .ok u ∧
        ∀ line ∈ readLines u.source, ¬ ("return (" : Text) <+: line := by
  constructor
  · obtain ⟨-, hlenient⟩ := generate_strict {} .crowded
    obtain ⟨-, hrefused, hline⟩ := hlenient _ generate_crowded
    have hfirst : Template.crowded.fields.find? (Field.Untyped ·) =
        some ⟨"inner", .object "cascading$tuple.Tuple", some ""⟩ := by
      decide +kernel
    have hcast : Field.castLine ⟨"inner", .object "cascading$tuple.Tuple", some ""⟩ =
        "return (Tuple)_tupleEntry.getObject(INNER_FN);" := by
      decide +kernel
    have hmem := List.mem_of_find?_eq_some hfirst
    have huntyped := List.find?_some hfirst
    refine ⟨_, generate_crowded, hrefused _ hfirst, ?_⟩
    rw [← hcast]
    exact hline _ hmem (of_decide_eq_true huntyped)
  · have haccepted : Accepted ({} : Settings).strict { Template.crowded with
        fields := Template.crowded.fields.filter fun f => ¬ f.Untyped } := by
      decide +kernel
    have hstrict := generate_eq_ok_iff.mpr ⟨haccepted, rfl⟩
    exact ⟨_, _, rfl, by decide +kernel, hstrict, ((generate_strict {} _).1 _ hstrict).2.1⟩

end CompilationUnit
end TupleRecord
