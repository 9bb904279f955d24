import TupleRecord.Proofs.FieldType.SourceName

/-!
Which storage a type has. The storage is chosen by what a type is and by its name at run time,
while the accessors use its name in the source; whatever the spelling, the two fit together.
-/
namespace TupleRecord

/-- The source types that a typed getter can return. -/
def Tuple.Getter.sourceTypes : Tuple.Getter → List Text
  | boolean => ["boolean", "Boolean"]
  | short => ["short", "Short"]
  | integer => ["int", "Integer"]
  | long => ["long", "Long"]
  | float => ["float", "Float"]
  | double => ["double", "Double"]
  | string => ["String"]
  | object => []

/-- A storage that keeps the values of the source type `type`. -/
inductive Storage.Fits (type : Text) : Storage → Prop where
  | nestedTuple {element : Text} (array : type = element ++ "[]")
      (reference : Name.isQualified element) : Fits type (.nestedTuple element)
  | ordinal (reference : Name.isQualified type) : Fits type .ordinal
  | epochMillis (date : type = "java.util.Date") : Fits type .epochMillis
  | uuidText (uuid : type = "java.util.UUID") : Fits type .uuidText
  | int32 (number : type = "int" ∨ type = "Integer") : Fits type .int32
  | int64 (number : type = "long" ∨ type = "Long") : Fits type .int64
  | typed {getter : Tuple.Getter} (returned : type ∈ getter.sourceTypes) :
      Fits type (.direct getter)
  | cast (reference : Name.isQualified type) : Fits type (.direct .object)

namespace Tuple.Getter

theorem mem_sourceTypes_ofPrimitive (p : Primitive) :
    p.keyword ∈ (ofPrimitive p).sourceTypes ∧ p.box ∈ (ofPrimitive p).sourceTypes := by
  cases p <;> decide

/-- A getter is typed exactly for the types that it can return. -/
theorem ofSourceName_cases (type : Text) :
    type ∈ (ofSourceName type).sourceTypes ∨ ofSourceName type = object := by
  unfold ofSourceName
  cases hp : Primitive.all.find? (fun p => p.keyword == type || p.box == type) with
  | some p =>
    have htype := List.find?_some hp
    rw [Bool.or_eq_true, beq_iff_eq, beq_iff_eq] at htype
    rcases htype with rfl | rfl
    · exact .inl (mem_sourceTypes_ofPrimitive p).1
    · exact .inl (mem_sourceTypes_ofPrimitive p).2
  | none =>
    by_cases hstring : type = "String"
    · simp only [if_pos hstring]
      rw [hstring]
      exact .inl (by decide)
    · exact .inr (if_neg hstring)

end Tuple.Getter

namespace Storage

/-- The typed getter or the cast of a class that no other storage takes. -/
theorem fits_direct {type : Text} (h : Name.isQualified type) :
    Fits type (.direct (.ofSourceName type)) := by
  rcases Tuple.Getter.ofSourceName_cases type with htyped | hobject
  · exact .typed htyped
  · rw [hobject]
    exact .cast h

theorem fits_object {name : Text} (h : FieldType.isClassName name) :
    Fits (classSourceName name) (ofType (.object name)) := by
  have hsource : (FieldType.object name).sourceName = classSourceName name :=
    sourceName_of_isClassName h
  simp only [ofType]
  split_ifs with henumeration hdate huuid hint32 hint64
  · exact .ordinal (isQualified_classSourceName h)
  · have hname : name = "java.util.Date" := eq_of_beq hdate
    rw [hname]
    exact .epochMillis (by decide)
  · have hname : name = "java.util.UUID" := eq_of_beq huuid
    rw [hname]
    exact .uuidText (by decide)
  · rcases Bool.or_eq_true_iff.mp hint32 with hkeyword | hbox
    · have hname : name = Primitive.int.keyword := eq_of_beq hkeyword
      rw [hname] at h
      exact absurd h (by decide +kernel)
    · have hname : name = Primitive.int.boxName := eq_of_beq hbox
      rw [hname]
      exact .int32 (by decide)
  · rcases Bool.or_eq_true_iff.mp hint64 with hkeyword | hbox
    · have hname : name = Primitive.long.keyword := eq_of_beq hkeyword
      rw [hname] at h
      exact absurd h (by decide +kernel)
    · have hname : name = Primitive.long.boxName := eq_of_beq hbox
      rw [hname]
      exact .int64 (by decide)
  · rw [hsource]
    exact fits_direct (isQualified_classSourceName h)

/-- Every primitive and its box but the integers go through the getter of their own. -/
theorem ofType_primitive {p : Primitive} (hint : p ≠ .int) (hlong : p ≠ .long) :
    ofType (.primitive p) = .direct (.ofPrimitive p) ∧
      ofType (.boxed p) = .direct (.ofPrimitive p) := by
  cases p with
  | int => exact absurd rfl hint
  | long => exact absurd rfl hlong
  | boolean | short | float | double => decide +kernel

theorem fits_primitive (p : Primitive) :
    Fits p.keyword (ofType (.primitive p)) ∧ Fits p.box (ofType (.boxed p)) := by
  by_cases hint : p = .int
  · rw [hint]
    exact ⟨.int32 (.inl rfl), .int32 (.inr rfl)⟩
  by_cases hlong : p = .long
  · rw [hlong]
    exact ⟨.int64 (.inl rfl), .int64 (.inr rfl)⟩
  obtain ⟨hprimitive, hboxed⟩ := ofType_primitive hint hlong
  obtain ⟨hkeyword, hbox⟩ := Tuple.Getter.mem_sourceTypes_ofPrimitive p
  rw [hprimitive, hboxed]
  exact ⟨.typed hkeyword, .typed hbox⟩

/-- The storage of a type fits its name in the source. -/
theorem fits_ofType {t : FieldType} (h : t.Named) : Fits t.sourceName (ofType t) := by
  rw [FieldType.sourceName_eq_sourceForm h]
  cases t with
  | primitive p => exact (fits_primitive p).1
  | boxed p => exact (fits_primitive p).2
  | string =>
    have hstorage : ofType .string = .direct .string := by decide +kernel
    rw [hstorage]
    exact .typed (by decide)
  | date => exact .epochMillis rfl
  | uuid => exact .uuidText rfl
  | enumeration name => exact .ordinal (isQualified_classSourceName (h name rfl))
  | array element =>
    have hstorage : ofType (.array element) = .nestedTuple (classSourceName element) :=
      congrArg nestedTuple (sourceName_of_isClassName (h element rfl))
    rw [hstorage]
    exact .nestedTuple rfl (isQualified_classSourceName (h element rfl))
  | object name => exact fits_object (h name rfl)

/-- The two kinds of types that the declaration alone tells apart. -/
theorem ofType_eq_ordinal_iff (t : FieldType) : ofType t = ordinal ↔ t.isEnumeration := by
  cases t with
  | enumeration name => exact iff_of_true rfl rfl
  | array element => exact iff_of_false (by simp [ofType]) (by simp [FieldType.isEnumeration])
  | primitive p | boxed p | string | date | uuid | object name =>
    refine iff_of_false ?_ (by simp [FieldType.isEnumeration])
    simp only [ofType]
    split_ifs <;> simp_all [FieldType.isEnumeration]

theorem ofType_eq_nestedTuple_iff (t : FieldType) :
    (∃ element, ofType t = nestedTuple element) ↔ t.isArray := by
  cases t with
  | array element => exact iff_of_true ⟨_, rfl⟩ rfl
  | primitive p | boxed p | string | date | uuid | enumeration name | object name =>
    refine iff_of_false ?_ (by simp [FieldType.isArray])
    rintro ⟨element, helement⟩
    simp only [ofType] at helement
    split_ifs at helement

end Storage
end TupleRecord
