import TupleRecord.Proofs.FieldType.RoundTrip
import TupleRecord.Proofs.RecordClass.Accessors

/-!
Types that are made without the parser, read back from their names. The name of an object may be
that of a class with a type of its own, with or without its package; the object then is another
type than its name denotes. Both have the same source name, and both are stored alike unless the
object is a boxed integer without its package.
-/
namespace TupleRecord

open Java

namespace FieldType

/-- The types of the classes that the parser knows. -/
def knownTypes : List FieldType := Primitive.all.map boxed ++ [string, date, uuid]

/-- The name of the type `t` is read as the type `p`. -/
inductive ReadsAs : FieldType → FieldType → Prop where
  | itself {t : FieldType} (other : ∀ name, t = .object name → ¬ IsKnownClass name) : ReadsAs t t
  | qualified {p : FieldType} (known : p ∈ knownTypes) : ReadsAs (.object p.jvmName) p
  | simpleBox (p : Primitive) : ReadsAs (.object p.box) (.boxed p)
  | simpleString : ReadsAs (.object "String") .string

/-- Every type but an enumeration has a name that denotes a type, mostly itself. -/
theorem exists_denotes_jvmName {t : FieldType} (h : t.Named) (hkind : ¬ t.isEnumeration) :
    ∃ p, Denotes t.jvmName p ∧ t.ReadsAs p := by
  cases t with
  | primitive p => exact ⟨_, .primitive rfl, .itself nofun⟩
  | boxed p => exact ⟨_, .boxed (.inr rfl), .itself nofun⟩
  | string => exact ⟨_, .string (.inr rfl), .itself nofun⟩
  | date => exact ⟨_, .date rfl, .itself nofun⟩
  | uuid => exact ⟨_, .uuid rfl, .itself nofun⟩
  | enumeration name => exact absurd rfl hkind
  | array element =>
    exact ⟨_, .array (isClassName_iff.mp (h element rfl)) (.inl rfl), .itself nofun⟩
  | object name =>
    by_cases hknown : IsKnownClass name
    · rcases hknown with ⟨p, rfl | rfl⟩ | (rfl | rfl) | rfl | rfl
      · exact ⟨_, .boxed (.inl rfl), .simpleBox p⟩
      · exact ⟨_, .boxed (.inr rfl),
          .qualified (List.mem_append_left _ (List.mem_map_of_mem p.mem_all))⟩
      · exact ⟨_, .string (.inl rfl), .simpleString⟩
      · exact ⟨_, .string (.inr rfl), .qualified (p := .string) (by decide)⟩
      · exact ⟨_, .date rfl, .qualified (p := .date) (by decide)⟩
      · exact ⟨_, .uuid rfl, .qualified (p := .uuid) (by decide)⟩
    · refine ⟨_, .object (isClassName_iff.mp (h name rfl)) hknown, .itself ?_⟩
      rintro _ ⟨⟩
      exact hknown

end FieldType

theorem Tuple.Getter.ofPrimitive_ne_object (p : Primitive) : ofPrimitive p ≠ .object := by
  cases p <;> decide

namespace Storage

/-- What is neither an array nor an enumeration is stored as its name says. -/
theorem ofType_congr {t t' : FieldType} (ht : t.isArray = false) (ht' : t'.isArray = false)
    (hkind : t.isEnumeration = t'.isEnumeration) (hname : t.jvmName = t'.jvmName) :
    ofType t = ofType t' := by
  have hplain {t : FieldType} (ht : t.isArray = false) :
      ofType t = if t.isEnumeration then ordinal else if t.isDate then epochMillis
        else if t.isUuid then uuidText else if t.isInt32 then int32 else if t.isInt64 then int64
        else direct (.ofSourceName t.sourceName) := by
    cases t with
    | array element => cases ht
    | _ => rfl
  have hdate : t.isDate = t'.isDate := by rw [FieldType.isDate, hname, FieldType.isDate]
  have huuid : t.isUuid = t'.isUuid := by rw [FieldType.isUuid, hname, FieldType.isUuid]
  have hint32 : t.isInt32 = t'.isInt32 := by rw [FieldType.isInt32, hname, FieldType.isInt32]
  have hint64 : t.isInt64 = t'.isInt64 := by rw [FieldType.isInt64, hname, FieldType.isInt64]
  have hsource : t.sourceName = t'.sourceName := congrArg TupleRecord.sourceName hname
  rw [hplain ht, hplain ht', hkind, hdate, huuid, hint32, hint64, hsource]

/-- An object with the full name of a class is stored as the type of that class. -/
theorem ofType_knownName {t : FieldType} (h : t ∈ FieldType.knownTypes) :
    ofType (.object t.jvmName) = ofType t := by
  have hknown : ∀ t ∈ FieldType.knownTypes, t.isArray = false ∧ t.isEnumeration = false := by
    decide
  obtain ⟨harray, hkind⟩ := hknown t h
  exact ofType_congr rfl harray hkind.symm rfl

/-- An object that is named like a box without its package has the getter of the box. -/
theorem ofType_simpleBox (p : Primitive) : ofType (.object p.box) = .direct (.ofPrimitive p) := by
  cases p <;> decide +kernel

theorem ofType_simpleString : ofType (.object "String") = ofType .string := by decide +kernel

theorem ofType_ne_untyped_of_known {t : FieldType} (h : t ∈ FieldType.knownTypes) :
    ofType t ≠ .direct .object := by
  have hknown : ∀ t ∈ FieldType.knownTypes, ofType t ≠ .direct .object := by decide +kernel
  exact hknown t h

/-- A box is read through the getter of its primitive, however it is stored. -/
theorem unpack_boxed (p : Primitive) (type constant : Text) :
    (ofType (.boxed p)).unpack type ((ofType (.boxed p)).getter.call constant) =
      .ofLines ["return " ++ (Tuple.Getter.ofPrimitive p).call constant ++ ";"] := by
  by_cases hint : p = .int
  · rw [hint]
    rfl
  by_cases hlong : p = .long
  · rw [hlong]
    rfl
  rw [(ofType_primitive hint hlong).2]
  exact unpack_typed type _ (Tuple.Getter.ofPrimitive_ne_object p)

end Storage

/-- A statement tells by which setter it stores. -/
theorem Tuple.Setter.call_inj {a b : Tuple.Setter} {constant constant' value value' : Text}
    (h : a.call constant value = b.call constant' value') : a = b := by
  -- The methods differ in their fourth character already, before anything that is passed to them.
  have hstart (s : Tuple.Setter) (rest : Text) : (s.method ++ rest).take 4 = s.method.take 4 := by
    cases s <;> rfl
  simp only [call, List.append_assoc] at h
  have hmethod := congrArg (List.take 4) (List.append_cancel_left (List.append_cancel_left h))
  rw [hstart, hstart] at hmethod
  revert hmethod
  cases a <;> cases b <;> decide

namespace FieldType.ReadsAs

variable {t p : FieldType}

theorem sourceName_eq (h : t.ReadsAs p) : p.sourceName = t.sourceName := by
  cases h with
  | itself other => rfl
  | qualified known => rfl
  | simpleBox p => cases p <;> decide +kernel
  | simpleString => decide +kernel

/-- Only the boxed integers lose their storage with their package. -/
theorem storage_eq_iff (h : t.ReadsAs p) :
    Storage.ofType p = Storage.ofType t ↔ t ≠ .object "Integer" ∧ t ≠ .object "Long" := by
  cases h with
  | itself other =>
    refine iff_of_true rfl ⟨?_, ?_⟩
    · rintro rfl
      exact other _ rfl (.inl ⟨.int, .inl rfl⟩)
    · rintro rfl
      exact other _ rfl (.inl ⟨.long, .inl rfl⟩)
  | qualified known =>
    have hnumbers : ∀ p ∈ knownTypes, FieldType.object p.jvmName ≠ .object "Integer" ∧
        FieldType.object p.jvmName ≠ .object "Long" := by
      decide
    exact iff_of_true (Storage.ofType_knownName known).symm (hnumbers p known)
  | simpleBox p => cases p <;> decide +kernel
  | simpleString => exact iff_of_true Storage.ofType_simpleString.symm (by decide)

/-- A value is returned in the same way, also if it is not stored so. -/
theorem unpack_eq (h : t.ReadsAs p) (type constant : Text) :
    (Storage.ofType p).unpack type ((Storage.ofType p).getter.call constant) =
      (Storage.ofType t).unpack type ((Storage.ofType t).getter.call constant) := by
  cases h with
  | itself other => rfl
  | qualified known => rw [Storage.ofType_knownName known]
  | simpleBox p =>
    rw [Storage.unpack_boxed, Storage.ofType_simpleBox]
    exact (Storage.unpack_typed type _ (Tuple.Getter.ofPrimitive_ne_object p)).symm
  | simpleString => rw [Storage.ofType_simpleString]

theorem storage_eq_of_setter (h : t.ReadsAs p)
    (hsetter : (Storage.ofType p).setter = (Storage.ofType t).setter) :
    Storage.ofType p = Storage.ofType t := by
  cases h with
  | itself other => rfl
  | qualified known => exact (Storage.ofType_knownName known).symm
  | simpleBox p =>
    revert hsetter
    cases p <;> decide +kernel
  | simpleString => exact Storage.ofType_simpleString.symm

theorem untyped_iff (h : t.ReadsAs p) :
    Storage.ofType p = .direct .object ↔ Storage.ofType t = .direct .object := by
  cases h with
  | itself other => exact Iff.rfl
  | qualified known => rw [Storage.ofType_knownName known]
  | simpleBox p =>
    rw [Storage.ofType_simpleBox, Storage.direct.injEq]
    refine iff_of_false (Storage.ofType_ne_untyped_of_known ?_) (Tuple.Getter.ofPrimitive_ne_object p)
    exact List.mem_append_left _ (List.mem_map_of_mem p.mem_all)
  | simpleString => rw [Storage.ofType_simpleString]

/-- The parser makes no template's name of a name that is none. -/
theorem nestedTemplate?_eq_none (h : t.ReadsAs p) {ending : Text}
    (hflat : t.nestedTemplate? ending = none) : p.nestedTemplate? ending = none := by
  cases h with
  | itself other => exact hflat
  | qualified known =>
    cases p with
    | array element | object name => simp [knownTypes] at known
    | _ => rfl
  | simpleBox p => rfl
  | simpleString => rfl

variable {s : Settings} {f : Field}

/-- A field is stored with its type as it was made exactly if it is stored with the type that is
read back, and its class is not named like a template. -/
theorem storable_iff (h : f.type.ReadsAs p) :
    f.Storable s ↔ Field.Storable s { f with type := p } ∧
      f.type.nestedTemplate? s.templateEnding = none := by
  constructor
  · intro hf
    refine ⟨⟨h.nestedTemplate?_eq_none hf.flat, fun hs => ?_⟩, hf.flat⟩
    exact h.untyped_iff.not.mpr (hf.typed hs)
  · rintro ⟨hp, hflat⟩
    exact ⟨hflat, fun hs => h.untyped_iff.not.mp (hp.typed hs)⟩

theorem param_eq (h : f.type.ReadsAs p) :
    (Field.column { f with type := p }).param = f.column.param := by
  rw [Column.param, Field.column, h.sourceName_eq]
  rfl

theorem getter_eq (h : f.type.ReadsAs p) :
    (Field.column { f with type := p }).getter = f.column.getter := by
  have hbody := h.unpack_eq p.sourceName f.constant
  simp only [Column.getter, Field.column, h.sourceName_eq] at hbody ⊢
  exact congrArg _ hbody

theorem setter_eq_iff (h : f.type.ReadsAs p) :
    (Field.column { f with type := p }).setter = f.column.setter ↔
      f.type ≠ .object "Integer" ∧ f.type ≠ .object "Long" := by
  rw [← h.storage_eq_iff]
  constructor
  · intro hsetter
    have hcall := (Code.line.inj (congrArg Method.body hsetter)).1
    exact h.storage_eq_of_setter (Tuple.Setter.call_inj hcall)
  · intro hstorage
    simp only [Column.setter, Field.column, Column.param, hstorage, h.sourceName_eq]
    rfl

end FieldType.ReadsAs

namespace FieldType

/-- Every type but an enumeration is read back from its name, as a type with the same source name
and, unless it is a boxed integer without its package, with the same storage. A field is accepted
with either type, as long as its class is not named like a template, and has the same parameter and
getter; its setters are the same exactly if the storage is. -/
theorem parse_jvmName_alike {t : FieldType} (hcheck : t.check = .ok t) (hkind : ¬ t.isEnumeration) :
    ∃ p, parse t.jvmName = .ok p ∧ p.sourceName = t.sourceName ∧
      (Storage.ofType p = Storage.ofType t ↔ t ≠ .object "Integer" ∧ t ≠ .object "Long") ∧
      ∀ (s : Settings) (f : Field), f.type = t →
        ((∃ c, Column.ofField s f = .ok c) ↔
          (∃ c, Column.ofField s { f with type := p } = .ok c) ∧
            t.nestedTemplate? s.templateEnding = none) ∧
        ∀ c c', Column.ofField s f = .ok c → Column.ofField s { f with type := p } = .ok c' →
          c'.param = c.param ∧ c'.getter = c.getter ∧
            (c'.setter = c.setter ↔ t ≠ .object "Integer" ∧ t ≠ .object "Long") := by
  obtain ⟨hnamed, -⟩ := check_eq_ok_iff.mp hcheck
  obtain ⟨p, hdenotes, hreads⟩ := exists_denotes_jvmName hnamed hkind
  have hparse : parse t.jvmName = .ok p := by
    rw [parse_eq_ok_iff, hdenotes.trim]
    exact hdenotes
  refine ⟨p, hparse, hreads.sourceName_eq, hreads.storage_eq_iff, ?_⟩
  rintro s f rfl
  constructor
  · simp only [Column.ofField_eq_ok_iff, exists_and_left, exists_eq, and_true]
    exact hreads.storable_iff
  · intro c c' hc hc'
    obtain ⟨-, rfl⟩ := Column.ofField_eq_ok_iff.mp hc
    obtain ⟨-, rfl⟩ := Column.ofField_eq_ok_iff.mp hc'
    exact ⟨hreads.param_eq, hreads.getter_eq, hreads.setter_eq_iff⟩

/-- An object with the name of the date class is read as a date. -/
theorem parse_jvmName_alike_date :
    (object "java.util.Date").check = .ok (object "java.util.Date") ∧
      ¬ (object "java.util.Date").isEnumeration ∧
      ∃ p, parse (object "java.util.Date").jvmName = .ok p ∧ p ≠ object "java.util.Date" ∧
        p.sourceName = (object "java.util.Date").sourceName ∧
        Storage.ofType p = Storage.ofType (object "java.util.Date") ∧
        (Field.column ⟨"_created", p, none⟩).setter =
          (Field.column ⟨"_created", object "java.util.Date", none⟩).setter := by
  have hcheck : (object "java.util.Date").check = .ok (object "java.util.Date") := by
    decide +kernel
  have hkind : ¬ (object "java.util.Date").isEnumeration := nofun
  have hdate : object "java.util.Date" ≠ object "Integer" ∧
      object "java.util.Date" ≠ object "Long" := by
    decide
  obtain ⟨p, hparse, hsource, hstorage, hfield⟩ := parse_jvmName_alike hcheck hkind
  have hp : p = date := by
    have hread : parse (object "java.util.Date").jvmName = .ok date := by decide +kernel
    exact Except.ok.inj (hparse.symm.trans hread)
  have hmade : Column.ofField {} ⟨"_created", object "java.util.Date", none⟩ =
      .ok (Field.column ⟨"_created", object "java.util.Date", none⟩) := by
    decide +kernel
  have hread : Column.ofField {} ⟨"_created", p, none⟩ =
      .ok (Field.column ⟨"_created", p, none⟩) := by
    rw [hp]
    decide +kernel
  obtain ⟨-, -, hsetter⟩ := (hfield {} ⟨"_created", _, none⟩ rfl).2 _ _ hmade hread
  exact ⟨hcheck, hkind, p, hparse, by rw [hp]; decide, hsource, hstorage.mpr hdate,
    hsetter.mpr hdate⟩

/-- A boxed integer without its package is stored untyped, but typed once it is read back. -/
theorem parse_jvmName_integer :
    (object "Integer").check = .ok (object "Integer") ∧ ¬ (object "Integer").isEnumeration ∧
      parse (object "Integer").jvmName = .ok (boxed .int) ∧
      Storage.ofType (object "Integer") = .direct .integer ∧
      Storage.ofType (boxed .int) = .int32 ∧
      (Field.column ⟨"_count", object "Integer", none⟩).setter.body =
        .ofLines ["_tupleEntry.setObject(COUNT_FN, count);"] ∧
      (Field.column ⟨"_count", boxed .int, none⟩).setter.body =
        .ofLines ["_tupleEntry.setInteger(COUNT_FN, count);"] := by
  decide +kernel

end FieldType
end TupleRecord
