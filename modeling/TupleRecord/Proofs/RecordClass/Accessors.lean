import TupleRecord.CompilationUnit.Basic
import TupleRecord.Proofs.FieldType.StorageFit
import TupleRecord.Proofs.Java.Access
import TupleRecord.Proofs.Java.Plain
import TupleRecord.Proofs.RecordClass.Acceptance
import TupleRecord.Proofs.RecordClass.Lines

/-!
Setters and getters. What the setter of a field stores its getter reads back: under the same
constant, which no other field uses, through a pair of methods of the entry that belong together,
and in a way that fits the type that both are declared with.
-/
namespace TupleRecord

open Java

namespace Storage

/-- A call that stores a value under a constant. -/
def store (method constant value : Text) : Text :=
  "_tupleEntry." ++ method ++ "(" ++ constant ++ ", " ++ value ++ ");"

/-- A call that returns what is stored under a constant. -/
def load (method constant : Text) : Text := "_tupleEntry." ++ method ++ "(" ++ constant ++ ")"

/-- The statements that store the variable `name` of the type `type` under `constant`, and those
that return what is stored there. -/
inductive Paired (type constant name : Text) : Storage → Code → Code → Prop where
  | nestedTuple (element : Text) :
      Paired type constant name (.nestedTuple element)
        (.ofLines [store "setObject" constant
          (name ++ " == null ? null : new Tuple((Object[]) " ++ name ++ ")")])
        (.line ("Tuple tuple = (Tuple)" ++ load "getObject" constant ++ ";") <|
          .block "if (tuple == null)" (.ofLines ["return null;"]) <|
          .blank <|
          .line (element ++ "[] result = new " ++ element ++ "[tuple.size()];") <|
          .block "for (int i = 0; i < result.length; i++)"
            (.ofLines ["result[i] = (" ++ element ++ ")tuple.getObject(i);"]) <|
          .blank <|
          .ofLines ["return result;"])
  | ordinal :
      Paired type constant name .ordinal
        (.ofLines [store "setInteger" constant (name ++ ".ordinal()")])
        (.ofLines ["return " ++ type ++ ".values()[" ++ load "getInteger" constant ++ "];"])
  | epochMillis :
      Paired type constant name .epochMillis
        (.ofLines [store "setLong" constant (name ++ ".getTime()")])
        (.ofLines ["return new " ++ type ++ "(" ++ load "getLong" constant ++ ");"])
  | uuidText :
      Paired type constant name .uuidText
        (.ofLines [store "setString" constant (name ++ ".toString()")])
        (.ofLines ["return java.util.UUID.fromString(" ++ load "getString" constant ++ ");"])
  | int32 :
      Paired type constant name .int32 (.ofLines [store "setInteger" constant name])
        (.ofLines ["return " ++ load "getInteger" constant ++ ";"])
  | int64 :
      Paired type constant name .int64 (.ofLines [store "setLong" constant name])
        (.ofLines ["return " ++ load "getLong" constant ++ ";"])
  | typed {getter : Tuple.Getter} (typed : getter ≠ .object) :
      Paired type constant name (.direct getter) (.ofLines [store "setObject" constant name])
        (.ofLines ["return " ++ load ("get" ++ getter.typeName) constant ++ ";"])
  | cast :
      Paired type constant name (.direct .object) (.ofLines [store "setObject" constant name])
        (.ofLines ["return " ++ ("(" ++ type ++ ")") ++ load "getObject" constant ++ ";"])

end Storage

/-- A column whose accessors agree on where its value is, how it is stored and which type it
has. -/
structure Column.AccessorsAgree (c : Column) : Prop where
  type : c.sourceType = c.field.type.sourceName
  parameter : c.setter.params = [⟨c.sourceType, c.field.bareName⟩]
  result : c.getter.returnType = some c.sourceType
  paired : Storage.Paired c.sourceType c.field.constant c.field.bareName c.storage c.setter.body
    c.getter.body
  fits : Storage.Fits c.sourceType c.storage
  enumeration : c.storage = .ordinal ↔ c.field.type.isEnumeration
  array : (∃ element, c.storage = .nestedTuple element) ↔ c.field.type.isArray
  stores : c.setter.body.accesses.map Access.constant = [c.field.constant]
  loads : c.getter.body.accesses.map Access.constant = [c.field.constant]

namespace Column

theorem paired (c : Column) :
    Storage.Paired c.sourceType c.field.constant c.field.bareName c.storage c.setter.body
      c.getter.body := by
  obtain ⟨f, type, storage⟩ := c
  cases storage with
  | nestedTuple element => exact .nestedTuple element
  | ordinal => exact .ordinal
  | epochMillis => exact .epochMillis
  | uuidText => exact .uuidText
  | int32 => exact .int32
  | int64 => exact .int64
  | direct getter =>
    cases getter with
    | object => exact .cast
    | boolean | short | integer | long | float | double | string => exact .typed (by decide)

end Column

namespace Storage

variable {type constant name : Text} {storage : Storage}

/-- The value that is stored comes from the parameter alone. -/
theorem accesses_pack (hname : name.all Name.isDottedChar) :
    accesses (storage.pack name ++ ");") = [] := by
  have hcall (method : Text) (hmethod : method.all Name.isDottedChar) :
      accesses (name ++ (method ++ "()") ++ ");") = [] := by
    have htext : name ++ (method ++ "()") ++ ");" = (name ++ method) ++ '(' :: (")" ++ ");") := by
      simp
    have hmember : (name ++ method).all Name.isDottedChar := by
      rw [List.all_append, hname, hmethod]
      rfl
    rw [htext, accesses_dotted hmember (by decide +kernel) (fun _ => rfl)]
    exact accesses_of_notMem (by decide)
  have hself : accesses (name ++ ')' :: [';']) = [] := by
    rw [accesses_name hname (by decide +kernel) (by decide)]
    exact accesses_of_notMem (by decide)
  cases storage with
  | nestedTuple element =>
    have htext : name ++ " == null ? null : new Tuple((Object[]) " ++ name ++ ")" ++ ");" =
        name ++ ' ' :: ("== null ? null : new Tuple((Object[]) " ++ (name ++ ')' :: ");")) := by
      simp
    rw [pack, htext, accesses_name hname (by decide +kernel) (by decide), accesses_cons (by decide),
      accesses_append_of_notMem (by decide), accesses_name hname (by decide +kernel) (by decide)]
    exact accesses_of_notMem (by decide)
  | ordinal => exact hcall ".ordinal" (by decide +kernel)
  | epochMillis => exact hcall ".getTime" (by decide +kernel)
  | uuidText => exact hcall ".toString" (by decide +kernel)
  | int32 | int64 | direct getter => exact hself

/-- Copying a nested tuple does not go back to the entry. -/
theorem accesses_unpackTuple {element loaded : Text} (h : element.all Name.isDottedChar) :
    (unpackTuple element loaded).accesses =
      accesses ("Tuple tuple = (Tuple)" ++ loaded ++ ";") := by
  have hnew : accesses (element ++ "[] result = new " ++ element ++ "[tuple.size()];") = [] := by
    have htext : element ++ "[] result = new " ++ element ++ "[tuple.size()];" =
        element ++ '[' :: ("] result = new " ++ (element ++ '[' :: "tuple.size()];")) := by
      simp
    rw [htext, accesses_name h (by decide +kernel) (by decide), accesses_cons (by decide),
      accesses_append_of_notMem (by decide), accesses_name h (by decide +kernel) (by decide)]
    exact accesses_of_notMem (by decide)
  have hcopy : accesses ("result[i] = (" ++ element ++ ")tuple.getObject(i);") = [] := by
    have htext : "result[i] = (" ++ element ++ ")tuple.getObject(i);" =
        "result[i] = (" ++ (element ++ ')' :: "tuple.getObject(i);") := by
      simp
    rw [htext, accesses_append_of_notMem (by decide),
      accesses_name h (by decide +kernel) (by decide)]
    exact accesses_of_notMem (by decide)
  have hnull : accesses "if (tuple == null)" = [] := accesses_of_notMem (by decide)
  have hfor : accesses "for (int i = 0; i < result.length; i++)" = [] :=
    accesses_of_notMem (by decide)
  have hnone : accesses "return null;" = [] := accesses_of_notMem (by decide)
  have hresult : accesses "return result;" = [] := accesses_of_notMem (by decide)
  unfold unpackTuple
  rw [Code.accesses, Code.accesses, Code.accesses, Code.accesses, Code.accesses, Code.accesses,
    Code.accesses_single, Code.accesses_single, Code.accesses_single, hnull, hnone, hnew, hfor,
    hcopy, hresult]
  simp

/-- What a typed getter returns is not cast. -/
theorem unpack_typed {getter : Tuple.Getter} (type loaded : Text) (h : getter ≠ .object) :
    (direct getter).unpack type loaded = .ofLines ["return " ++ loaded ++ ";"] := by
  have hcast : getter.needsCast = false := by simpa [Tuple.Getter.needsCast] using h
  rw [unpack, hcast, if_neg Bool.false_ne_true, List.append_nil]

/-- A getter reads the entry once, under the constant of its field. -/
theorem accesses_unpack (hconstant : constant.all Name.isWordChar) (hne : constant ≠ [])
    (hfits : Fits type storage) :
    (storage.unpack type (storage.getter.call constant)).accesses =
      [⟨storage.getter.method, constant⟩] := by
  have hread (before after : Text) (hbefore : '_' ∉ before) (hafter : '_' ∉ after) :
      accesses (before ++ storage.getter.call constant ++ after) =
        [⟨storage.getter.method, constant⟩] := by
    rw [List.append_assoc, accesses_append_of_notMem hbefore,
      accesses_getter_call storage.getter hconstant hne, accesses_of_notMem hafter]
  cases hfits with
  | int32 | int64 =>
    unfold unpack
    rw [Code.accesses_single]
    exact hread "return " ";" (by decide) (by decide)
  | uuidText =>
    unfold unpack
    rw [Code.accesses_single]
    exact hread "return java.util.UUID.fromString(" ");" (by decide) (by decide)
  | epochMillis date =>
    unfold unpack
    rw [Code.accesses_single, date]
    exact hread "return new java.util.Date(" ");" (by decide) (by decide)
  | @typed getter returned =>
    have hgetter : getter ≠ .object := by
      rintro rfl
      cases returned
    rw [unpack_typed _ _ hgetter, Code.accesses_single]
    exact hread "return " ";" (by decide) (by decide)
  | cast reference =>
    have hdotted := Name.all_isDottedChar_of_isQualified reference
    have htext : "return " ++ ("(" ++ type ++ ")") ++ Tuple.Getter.object.call constant ++ ";" =
        "return (" ++ (type ++ ')' :: (Tuple.Getter.object.call constant ++ ";")) := by
      simp
    have hclose := hread ")" ";" (by decide) (by decide)
    unfold unpack
    rw [Code.accesses_single]
    refine (congrArg accesses htext).trans ?_
    rw [accesses_append_of_notMem (by decide), accesses_name hdotted (by decide +kernel) (by decide)]
    exact hclose
  | ordinal reference =>
    have hdotted := Name.all_isDottedChar_of_isQualified reference
    have htype : (type ++ ".values").all Name.isDottedChar := by
      rw [List.all_append, hdotted]
      decide +kernel
    have htext : "return " ++ type ++ ".values()[" ++ Tuple.Getter.integer.call constant ++ "];" =
        "return " ++ ((type ++ ".values") ++
          '(' :: (")[" ++ Tuple.Getter.integer.call constant ++ "];")) := by
      simp
    have hopen := hread "()[" "];" (by decide) (by decide)
    unfold unpack
    rw [Code.accesses_single]
    refine (congrArg accesses htext).trans ?_
    rw [accesses_append_of_notMem (by decide), accesses_dotted htype (by decide +kernel)
      (fun _ => rfl)]
    exact hopen
  | nestedTuple array reference =>
    refine (accesses_unpackTuple (Name.all_isDottedChar_of_isQualified reference)).trans ?_
    exact hread "Tuple tuple = (Tuple)" ";" (by decide) (by decide)

end Storage

/-- The constants that the accessors of a column address. -/
def Column.addressed (c : Column) : List Text :=
  (c.setter.body.accesses ++ c.getter.body.accesses).map Access.constant

namespace Field

theorem constant_ne_nil (f : Field) : f.constant ≠ [] := by
  simp [constant, Name.constant, Name.constantEnding]

variable {f : Field}

theorem Valid.setter_accesses (h : f.Valid) :
    f.column.setter.body.accesses = [⟨f.column.storage.setter.method, f.constant⟩] := by
  have hname : f.bareName.all Name.isDottedChar :=
    Name.all_isDottedChar_of_isWordChar h.bareName_word
  have hbody : f.column.setter.body.accesses =
      accesses (f.column.storage.setter.call f.constant (f.column.storage.pack f.bareName)) :=
    Code.accesses_single _
  rw [hbody, accesses_setter_call _ h.constant_word f.constant_ne_nil,
    Storage.accesses_pack hname]

theorem Valid.getter_accesses (h : f.Valid) :
    f.column.getter.body.accesses = [⟨f.column.storage.getter.method, f.constant⟩] :=
  Storage.accesses_unpack h.constant_word f.constant_ne_nil (Storage.fits_ofType h.type)

/-- The accessors of a field agree. -/
theorem Valid.accessorsAgree (h : f.Valid) : f.column.AccessorsAgree where
  type := rfl
  parameter := rfl
  result := rfl
  paired := f.column.paired
  fits := Storage.fits_ofType h.type
  enumeration := Storage.ofType_eq_ordinal_iff f.type
  array := Storage.ofType_eq_nestedTuple_iff f.type
  stores := by
    rw [h.setter_accesses]
    rfl
  loads := by
    rw [h.getter_accesses]
    rfl

theorem Valid.addressed_column (h : f.Valid) : f.column.addressed = [f.constant, f.constant] := by
  rw [Column.addressed, h.setter_accesses, h.getter_accesses]
  rfl

end Field

namespace CompilationUnit

/-- In every source that is generated there are a setter and a getter of each field, which agree,
and they address a constant that the accessors of no other field address. -/
theorem generate_accessorsAgree {s : Settings} {t : Template} {u : CompilationUnit}
    (h : generate s t = .ok u) :
    ∃ c, RecordClass.ofTemplate s t = .ok c ∧ u = c.unit s ∧ c.fields = t.fields ∧
      (∀ column ∈ c.columns, column.AccessorsAgree ∧
        renderLines s.indentWidth (column.setter.lines 1) <:+: u.source ∧
        renderLines s.indentWidth (column.getter.lines 1) <:+: u.source) ∧
      c.columns.Pairwise fun a b => List.Disjoint a.addressed b.addressed := by
  obtain ⟨haccepted, rfl⟩ := generate_eq_ok_iff.mp h
  refine ⟨t.recordClass s, RecordClass.ofTemplate_eq_ok_iff.mpr ⟨haccepted, rfl⟩, rfl,
    Template.fields_recordClass s t, ?_, ?_⟩
  · refine List.forall_mem_map.mpr fun f hf => ⟨(haccepted.valid.fields f hf).accessorsAgree, ?_⟩
    have haccessor {m : Method} (hm : m = f.column.setter ∨ m = f.column.getter) :
        m ∈ (t.recordClass s).members := by
      refine List.mem_append_right _ (List.mem_flatMap.mpr ⟨f.column, ?_, by simpa using hm⟩)
      exact List.mem_map_of_mem hf
    exact ⟨RecordClass.renderLines_isInfix_source s (haccessor (.inl rfl)),
      RecordClass.renderLines_isInfix_source s (haccessor (.inr rfl))⟩
  · refine List.pairwise_map.mpr (haccepted.valid.distinct.imp_of_mem ?_)
    intro f g hf hg hfg
    rw [(haccepted.valid.fields f hf).addressed_column,
      (haccepted.valid.fields g hg).addressed_column]
    simp [hfg.constant.symm]

theorem generate_accessorsAgree_crowded :
    ∃ u c, generate {} .crowded = .ok u ∧ RecordClass.ofTemplate {} .crowded = .ok c ∧
      u = c.unit {} ∧
      (∀ column ∈ c.columns, column.AccessorsAgree ∧
        renderLines 4 (column.setter.lines 1) <:+: u.source ∧
        renderLines 4 (column.getter.lines 1) <:+: u.source) ∧
      c.columns.Pairwise fun a b => List.Disjoint a.addressed b.addressed := by
  obtain ⟨c, hc, hu, -, hagree, hapart⟩ := generate_accessorsAgree generate_crowded
  exact ⟨_, c, generate_crowded, hc, hu, hagree, hapart⟩

end CompilationUnit
end TupleRecord
