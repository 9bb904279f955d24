import TupleRecord.Proofs.Java.Variable
import TupleRecord.Proofs.Name.UpperCase
import TupleRecord.Proofs.RecordClass.Accessors

/-!
No variable of a generated method hides what its body has from the class around it. The fields are
named freely, even like the constant of another field, so what counts is which names a body
mentions: a setter those of the entry and of its own constant, which is longer than its parameter,
and a constructor only that of the list of all constants.
-/
namespace TupleRecord

open Java

namespace Name

theorem length_le_upperSnake (previous : Option Char) (name : Text) :
    name.length ≤ (upperSnake previous name).length := by
  induction name generalizing previous with
  | nil => exact Nat.zero_le _
  | cons c name ih =>
    have hupper : 0 < (Unicode.toUppercase c).length :=
      List.length_pos_iff.mpr (Unicode.toUppercase_ne_nil c)
    have hrest := ih (some c)
    simp only [upperSnake, List.length_append, List.length_cons]
    omega

/-- Upper case may change the length of a name, but never shortens it. -/
theorem length_lt_constant (name : Text) : name.length < (constant name).length := by
  have hsnake := length_le_upperSnake none name
  have hending : constantEnding.length = 3 := rfl
  rw [constant, List.length_append, hending]
  omega

theorem isDigit_of_isIdentifierStart {c : Char} (h : isIdentifierStart c) : c.isDigit = false := by
  by_cases hc : c.toNat < 0x80
  · have hascii : ∀ n < 0x80, (Char.ofNat n).isAlpha || Char.ofNat n == '_' ||
        Char.ofNat n == '$' → (Char.ofNat n).isDigit = false := by
      decide
    rw [isIdentifierStart, (Unicode.seenAsAscii hc).alphabetic] at h
    exact of_ascii (P := fun c => c.isAlpha || c == '_' || c == '$' → c.isDigit = false) hascii hc h
  · have hlast : '9'.toNat = 0x39 := rfl
    rw [← Bool.not_eq_true, Char.isDigit_iff_toNat]
    omega

theorem isVariableName_of_isUsable {name : Text} (h : isUsable name) : isVariableName name := by
  rw [isUsable, Bool.and_eq_true] at h
  obtain ⟨hidentifier, hreserved⟩ := h
  cases name with
  | nil => cases hidentifier
  | cons c name =>
    rw [isIdentifier, Bool.and_eq_true] at hidentifier
    rw [isVariableName, List.all_cons, isDigit_of_isIdentifierStart hidentifier.1, hreserved]
    rfl

end Name

namespace Field

theorem constant_getLast? (f : Field) : f.constant.getLast? = some 'N' := by
  simp [constant, Name.constant, Name.constantEnding]

theorem isVariableName_constant (f : Field) : isVariableName f.constant := by
  have hdigits : f.constant.all Char.isDigit = false := by
    simp [constant, Name.constant, Name.constantEnding]
  have hreserved : Name.isReserved f.constant = false := by
    have hwords : ∀ word ∈ Name.reservedWords, word.getLast? ≠ some 'N' := by decide
    rw [Name.isReserved, List.contains_eq_mem, decide_eq_false_iff_not]
    exact fun hmem => hwords _ hmem f.constant_getLast?
  rw [isVariableName, hdigits, hreserved]
  rfl

theorem bareName_ne_constant (f : Field) : f.bareName ≠ f.constant := by
  intro h
  have hlength := Name.length_lt_constant f.bareName
  rw [← Field.constant, ← h] at hlength
  exact lt_irrefl _ hlength

theorem bareName_ne_entryMember (f : Field) : f.bareName ≠ Tuple.entryMember := by
  intro h
  have hmarker := List.head?_dropWhile_not (· == Name.marker) f.name
  rw [← Name.bare, ← Field.bareName, h] at hmarker
  change (Name.marker == Name.marker) = false at hmarker
  cases hmarker

end Field

/-- A method whose variables keep their meaning. Besides its parameters the body mentions the names
`outer` of the class around it, and no parameter hides one of them. -/
structure Java.Method.NoCapture (outer : List Text) (m : Method) : Prop where
  mentions : ∀ name, name ∈ m.body.mentioned ↔ name ∈ outer ∨ name ∈ m.params.map Param.name
  apart : outer.Disjoint (m.params.map Param.name)

theorem Java.Method.NoCapture.of_singleton {outer : Text} {m : Method} (params : List Text)
    (hparams : m.params.map Param.name = params)
    (hmentions : ∀ name, name ∈ m.body.mentioned ↔ name = outer ∨ name ∈ params)
    (hapart : outer ∉ params) : m.NoCapture [outer] where
  mentions name := by rw [hparams, hmentions, List.mem_singleton]
  apart := by
    rw [hparams, List.singleton_disjoint]
    exact hapart

/-- The variables of a getter that copies a nested tuple into an array. -/
def Storage.arrayLocals : List Text := ["tuple", "result", "i"]

/-- A column whose getter declares nothing that hides what it reads. -/
structure Column.ReadsApart (c : Column) : Prop where
  params : c.getter.params = []
  locals : c.getter.body.declared =
    if c.field.type.isArray then Storage.arrayLocals else []
  reads : c.getter.body.accesses.map Access.constant = [c.field.constant]
  apart : c.getter.body.declared.Disjoint [Tuple.entryMember, c.field.constant]

namespace Storage

variable {name : Text} {storage : Storage}

/-- What is stored mentions the parameter alone. -/
theorem mem_mentioned_pack (hword : name.all Name.isWordChar) (hname : isVariableName name)
    {x : Text} :
    x ∈ wordsWhere isVariable (some ' ') [] (storage.pack name ++ ");") ↔ x = name := by
  have hself (stop : Char) (hstop : Name.isWordChar stop = false) (hcall : stop ≠ '(')
      (harray : stop ≠ '[') (behind : Text) :
      wordsWhere isVariable (some ' ') [] (name ++ stop :: behind) =
        name :: wordsWhere isVariable (some stop) [] behind :=
    mentioned_word hword hname (by decide) hstop hcall harray behind
  have hclose : wordsWhere isVariable (some ')') [] ");" = [] := by rfl
  have hcall (method : Text) (hmethod : wordsWhere isVariable (some '.') [] (method ++ ");") = []) :
      x ∈ wordsWhere isVariable (some ' ') [] (name ++ '.' :: method ++ ");") ↔ x = name := by
    rw [List.append_assoc, List.cons_append, hself '.' (by decide) (by decide) (by decide),
      hmethod, List.mem_singleton]
  cases storage with
  | nestedTuple element =>
    have htext : pack name (.nestedTuple element) ++ ");" =
        name ++ ' ' :: ("== null ? null : new Tuple((Object[]) " ++ (name ++ ')' :: ");")) := by
      simp [pack]
    have hbetween (behind : Text) :
        wordsWhere isVariable (some ' ') [] ("== null ? null : new Tuple((Object[]) " ++ behind) =
          wordsWhere isVariable (some ' ') [] behind := by
      rfl
    rw [htext, hself ' ' (by decide) (by decide) (by decide), hbetween,
      hself ')' (by decide) (by decide) (by decide), hclose]
    simp
  | ordinal => exact hcall "ordinal()" (by rfl)
  | epochMillis => exact hcall "getTime()" (by rfl)
  | uuidText => exact hcall "toString()" (by rfl)
  | int32 | int64 | direct getter =>
    have hvalue : wordsWhere isVariable (some ' ') [] (name ++ ");") = [name] :=
      hself ')' (by decide) (by decide) (by decide) ";"
    rw [pack, hvalue, List.mem_singleton]

/-- A setter mentions the entry, the constant and then what it stores. -/
theorem mentioned_setter_call (setter : Tuple.Setter) {constant : Text}
    (hword : constant.all Name.isWordChar) (hname : isVariableName constant) (value : Text) :
    mentioned (setter.call constant value) =
      Tuple.entryMember :: constant :: wordsWhere isVariable (some ' ') [] (value ++ ");") := by
  have hmethod : setter.method.all Name.isWordChar := by cases setter <;> decide
  have htext : setter.call constant value = Tuple.entryMember ++ '.' ::
      (setter.method ++ '(' :: (constant ++ ',' :: (' ' :: (value ++ ");")))) := by
    simp [Tuple.Setter.call]
  rw [htext, mentioned, mentioned_word (by decide) (by decide) (by decide) (by decide) (by decide)
    (by decide), mentioned_member hmethod (by decide), mentioned_word hword hname (by decide)
    (by decide) (by decide) (by decide)]
  rfl

variable {type loaded element : Text}

/-- The copy of a nested tuple declares the tuple, the array and the position in both. -/
theorem declared_unpackTuple (helement : element.all Name.isDottedChar) (hloaded : '=' ∉ loaded) :
    (unpackTuple element loaded).declared = arrayLocals := by
  have hname : '=' ∉ element := Text.notMem_of_all helement (by decide)
  have htuple : declared ("Tuple tuple = (Tuple)" ++ loaded ++ ";") = ["tuple".toList] := by
    have hrest : '=' ∉ loaded ++ ";" := by simp [hloaded]
    have hcast : declared ("Tuple tuple = (Tuple)" ++ (loaded ++ ";")) =
        "tuple".toList :: wordsWhere isDeclared (some ')') [] (loaded ++ ";") := by
      rfl
    rw [List.append_assoc, hcast, declared_of_notMem [] hrest]
  have hresult : declared (element ++ "[] result = new " ++ element ++ "[tuple.size()];") =
      ["result".toList] := by
    have hrest : '=' ∉ element ++ "[tuple.size()];" := by simp [hname]
    have htext : element ++ "[] result = new " ++ element ++ "[tuple.size()];" =
        element ++ '[' :: ("] result = new " ++ (element ++ "[tuple.size()];")) := by
      simp
    have hnew : wordsWhere isDeclared (some '[') []
          ("] result = new " ++ (element ++ "[tuple.size()];")) =
        "result".toList :: wordsWhere isDeclared (some ' ') [] (element ++ "[tuple.size()];") := by
      rfl
    rw [htext, declared, declared_dotted [] helement (by decide) (by decide), hnew,
      declared_of_notMem [] hrest]
  have hcopy : declared ("result[i] = (" ++ element ++ ")tuple.getObject(i);") = [] := by
    have hrest : '=' ∉ element ++ ")tuple.getObject(i);" := by simp [hname]
    have hindex : declared ("result[i] = (" ++ (element ++ ")tuple.getObject(i);")) =
        wordsWhere isDeclared (some '(') [] (element ++ ")tuple.getObject(i);") := by
      rfl
    rw [List.append_assoc, hindex, declared_of_notMem [] hrest]
  have hnull : declared "if (tuple == null)" = [] := by decide +kernel
  have hnone : declared "return null;" = [] := by decide +kernel
  have hfor : declared "for (int i = 0; i < result.length; i++)" = ["i".toList] := by decide +kernel
  have hreturn : declared "return result;" = [] := by decide +kernel
  simp only [unpackTuple, Code.declared, Code.collect, Code.collect_ofLines,
    List.flatMap_singleton, htuple, hnull, hnone, hresult, hfor, hcopy, hreturn]
  rfl

/-- A getter declares nothing but for the copy of a nested tuple. -/
theorem declared_unpack (htype : '=' ∉ type) (hloaded : '=' ∉ loaded)
    (harray : ∀ element, storage ≠ nestedTuple element) :
    (storage.unpack type loaded).declared = [] := by
  have hline (text : Text) (h : '=' ∉ text) : (Code.ofLines [text]).declared = [] := by
    rw [Code.declared, Code.collect_ofLines, List.flatMap_singleton]
    exact declared_of_notMem [] h
  cases storage with
  | nestedTuple element => exact absurd rfl (harray element)
  | ordinal | epochMillis | uuidText | int32 | int64 =>
    exact hline _ (by simp [htype, hloaded])
  | direct getter =>
    refine hline _ ?_
    split <;> simp [htype, hloaded]

end Storage

namespace Field.Valid

variable {f : Field}

theorem setter_noCapture (h : f.Valid) :
    f.column.setter.NoCapture [Tuple.entryMember, f.constant] where
  mentions name := by
    have hbody : f.column.setter.body.mentioned =
        mentioned (f.column.storage.setter.call f.constant (f.column.storage.pack f.bareName)) :=
      (Code.collect_ofLines _ _).trans (List.flatMap_singleton _ _)
    have hparams : f.column.setter.params.map Param.name = [f.bareName] := rfl
    have hvalue := @Storage.mem_mentioned_pack _ f.column.storage h.bareName_word
      (Name.isVariableName_of_isUsable h.usable) name
    rw [hbody, hparams, Storage.mentioned_setter_call _ h.constant_word f.isVariableName_constant]
    simp only [List.mem_cons, List.not_mem_nil, or_false, hvalue, or_assoc]
  apart := by
    have hparams : f.column.setter.params.map Param.name = [f.bareName] := rfl
    rw [hparams, List.disjoint_singleton, List.mem_pair, not_or]
    exact ⟨f.bareName_ne_entryMember, f.bareName_ne_constant⟩

theorem declared_getter (h : f.Valid) :
    f.column.getter.body.declared = if f.type.isArray then Storage.arrayLocals else [] := by
  have hconstant : '=' ∉ f.constant := Text.notMem_of_all h.constant_word (by decide)
  have htype : '=' ∉ f.column.sourceType :=
    Text.notMem_of_all (FieldType.all_isTypeChar_sourceName h.type) (by decide)
  have hloaded (getter : Tuple.Getter) : '=' ∉ getter.call f.constant := by
    have hmethod : '=' ∉ getter.method := by cases getter <;> decide
    have hentry : '=' ∉ Tuple.entryMember := by decide
    simp [Tuple.Getter.call, hentry, hmethod, hconstant]
  cases hstorage : f.column.storage with
  | nestedTuple element =>
    have harray : f.type.isArray :=
      (Storage.ofType_eq_nestedTuple_iff f.type).mp ⟨element, hstorage⟩
    have hfits : Storage.Fits f.column.sourceType f.column.storage := Storage.fits_ofType h.type
    rw [hstorage] at hfits
    cases hfits with
    | nestedTuple _ reference =>
      rw [if_pos harray, Column.getter, hstorage]
      exact Storage.declared_unpackTuple (Name.all_isDottedChar_of_isQualified reference)
        (hloaded _)
  | ordinal | epochMillis | uuidText | int32 | int64 | direct getter =>
    have harray : ¬ f.type.isArray := by
      rw [← Storage.ofType_eq_nestedTuple_iff]
      rintro ⟨element, helement⟩
      cases helement.symm.trans hstorage
    rw [if_neg harray]
    refine Storage.declared_unpack htype (hloaded _) ?_
    rw [hstorage]
    intro element helement
    cases helement

theorem readsApart (h : f.Valid) : f.column.ReadsApart where
  params := rfl
  locals := h.declared_getter
  reads := by
    rw [h.getter_accesses]
    rfl
  apart := by
    have hlocals : ∀ name ∈ Storage.arrayLocals,
        name ≠ Tuple.entryMember ∧ name.getLast? ≠ some 'N' := by
      decide
    rw [h.declared_getter]
    split
    · intro name hlocal houter
      obtain ⟨hentry, hlast⟩ := hlocals name hlocal
      rcases List.mem_pair.mp houter with rfl | rfl
      · exact hentry rfl
      · exact hlast f.constant_getLast?
    · exact List.disjoint_nil_left _

theorem mentioned_assignment (h : f.Valid) :
    mentioned (RecordClass.assignment f) = [f.bareName] := by
  have htext : RecordClass.assignment f = f.setter ++ '(' :: (f.bareName ++ ')' :: ";") := by
    simp [RecordClass.assignment]
  have hsetter : isVariable none f.setter ('(' :: (f.bareName ++ ')' :: ";")) = false := by
    simp [isVariable]
  rw [htext, mentioned, wordsWhere_word [] h.setter_word (by decide), List.nil_append, hsetter,
    mentioned_word h.bareName_word (Name.isVariableName_of_isUsable h.usable) (by decide)
      (by decide) (by decide) (by decide)]
  rfl

end Field.Valid

namespace RecordClass

/-! The constructors that take no values have the same bodies in every class. -/

theorem emptyConstructor_noCapture (c : RecordClass) :
    c.emptyConstructor.NoCapture [Tuple.fieldsConstant] := by
  have hbody : (Code.ofLines [superFields]).mentioned = [Tuple.fieldsConstant] := by
    decide +kernel
  refine .of_singleton [] rfl (fun name => ?_) List.not_mem_nil
  rw [emptyConstructor, constructor, hbody, List.mem_singleton]
  simp

theorem tupleConstructor_noCapture (c : RecordClass) :
    c.tupleConstructor.NoCapture [Tuple.fieldsConstant] := by
  have hbody : (Code.ofLines ["super(" ++ Tuple.fieldsConstant ++ ", tuple);"]).mentioned =
      [Tuple.fieldsConstant, "tuple".toList] := by
    decide +kernel
  refine .of_singleton ["tuple"] rfl (fun name => ?_) (by decide)
  rw [tupleConstructor, constructor, hbody, List.mem_cons]

theorem entryConstructor_noCapture (c : RecordClass) :
    c.entryConstructor.NoCapture [Tuple.fieldsConstant] := by
  have hbody : (Code.ofLines ["super(tupleEntry);",
      "validateFields(tupleEntry, " ++ Tuple.fieldsConstant ++ ");"]).mentioned =
        ["tupleEntry".toList, "tupleEntry".toList, Tuple.fieldsConstant] := by
    decide +kernel
  refine .of_singleton ["tupleEntry"] rfl (fun name => ?_) (by decide)
  rw [entryConstructor, constructor, hbody]
  simp only [List.mem_cons, List.not_mem_nil, or_false]
  rw [← or_assoc, or_self, or_comm]

end RecordClass

namespace Accepted

variable {s : Settings} {t : Template}

theorem valueConstructor_params (s : Settings) (t : Template) :
    (t.recordClass s).valueConstructor.params.map Param.name = t.fields.map Field.bareName := by
  simp [Template.recordClass, RecordClass.valueConstructor, RecordClass.constructor, Column.param,
    Field.column]

theorem mentioned_valueConstructor (h : Accepted s t) :
    (t.recordClass s).valueConstructor.body.mentioned =
      Tuple.fieldsConstant :: t.fields.map Field.bareName := by
  have hsuper : mentioned RecordClass.superFields = [Tuple.fieldsConstant] := by decide +kernel
  have hassignments : (t.fields.map RecordClass.assignment).flatMap mentioned =
      t.fields.map Field.bareName := by
    rw [List.flatMap_map, List.map_eq_flatMap]
    exact List.flatMap_congr fun f hf => (h.valid.fields f hf).mentioned_assignment
  have hbody : (t.recordClass s).valueConstructor.body.mentioned =
      mentioned RecordClass.superFields ++
        (t.fields.map RecordClass.assignment).flatMap mentioned := by
    rw [← Template.fields_recordClass s t, ← Code.collect_ofLines]
    rfl
  rw [hbody, hsuper, hassignments, List.singleton_append]

theorem constructors_noCapture (h : Accepted s t) :
    ∀ m ∈ (t.recordClass s).constructors, m.NoCapture [Tuple.fieldsConstant] := by
  intro m hm
  simp only [RecordClass.constructors, List.mem_cons, List.not_mem_nil, or_false] at hm
  rcases hm with rfl | rfl | rfl | rfl
  · exact RecordClass.emptyConstructor_noCapture _
  · exact RecordClass.tupleConstructor_noCapture _
  · exact RecordClass.entryConstructor_noCapture _
  · refine .of_singleton _ (valueConstructor_params s t) (fun name => ?_) ?_
    · rw [h.mentioned_valueConstructor, List.mem_cons]
    · rw [List.mem_map]
      rintro ⟨f, hf, hname⟩
      exact h.hidesNothing f hf hname

end Accepted

namespace CompilationUnit

/-- In every source that is generated no variable hides what a body has from the class: no
parameter of a constructor the list of all constants or the entry, no parameter of a setter the
entry or the constant under which it stores, and no local variable of a getter the entry or the
constant that it reads. The constructors and accessors stand in the source. -/
theorem generate_noCapture {s : Settings} {t : Template} {u : CompilationUnit}
    (h : generate s t = .ok u) :
    ∃ c, RecordClass.ofTemplate s t = .ok c ∧ u = c.unit s ∧ c.StandsIn s u.source ∧
      c.fields = t.fields ∧
      (∀ m ∈ c.constructors, m.NoCapture [Tuple.fieldsConstant]) ∧
      Tuple.entryMember ∉ c.valueConstructor.params.map Param.name ∧
      ∀ column ∈ c.columns,
        column.setter.NoCapture [Tuple.entryMember, column.field.constant] ∧ column.ReadsApart := by
  obtain ⟨haccepted, rfl⟩ := generate_eq_ok_iff.mp h
  refine ⟨t.recordClass s, RecordClass.ofTemplate_eq_ok_iff.mpr ⟨haccepted, rfl⟩, rfl,
    RecordClass.standsIn_source _ s, Template.fields_recordClass s t,
    haccepted.constructors_noCapture, ?_, ?_⟩
  · rw [Accepted.valueConstructor_params, List.mem_map]
    rintro ⟨f, -, hname⟩
    exact f.bareName_ne_entryMember hname
  · refine List.forall_mem_map.mpr fun f hf => ?_
    have hvalid := haccepted.valid.fields f hf
    exact ⟨hvalid.setter_noCapture, hvalid.readsApart⟩

/-- A field named like the constant of another, and fields named like the variables of the
constructors and of a getter. -/
def lookalike : Template where
  package := "com.example"
  name := "LookalikeDatumTemplate"
  fields :=
    [⟨"a", .primitive .int, none⟩,
     ⟨"A_FN", .array "java.lang.String", none⟩,
     ⟨"_tupleEntry", .string, none⟩,
     ⟨"i", .array "com.example.Outer$result", none⟩]

theorem generate_noCapture_lookalike :
    ∃ u c, generate {} lookalike = .ok u ∧ RecordClass.ofTemplate {} lookalike = .ok c ∧
      u = c.unit {} ∧ c.StandsIn {} u.source ∧
      (∃ f ∈ c.fields, ∃ g ∈ c.fields, g.bareName = f.constant) ∧
      (∀ m ∈ c.constructors, m.NoCapture [Tuple.fieldsConstant]) ∧
      Tuple.entryMember ∉ c.valueConstructor.params.map Param.name ∧
      ∀ column ∈ c.columns,
        column.setter.NoCapture [Tuple.entryMember, column.field.constant] ∧
          column.ReadsApart := by
  have haccepted : Accepted {} lookalike := by decide +kernel
  have hgenerate := generate_eq_ok_iff.mpr ⟨haccepted, rfl⟩
  obtain ⟨c, hc, hu, hstands, hfields, hnoCapture⟩ := generate_noCapture hgenerate
  have hlike : ∃ f ∈ lookalike.fields, ∃ g ∈ lookalike.fields, g.bareName = f.constant := by
    decide +kernel
  exact ⟨_, c, hgenerate, hc, hu, hstands, hfields ▸ hlike, hnoCapture⟩

end CompilationUnit
end TupleRecord
