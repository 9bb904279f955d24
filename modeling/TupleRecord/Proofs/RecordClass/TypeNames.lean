import TupleRecord.Proofs.FieldType.SourceName
import TupleRecord.Proofs.RecordClass.Acceptance

/-!
The type names of a generated source that stand without a package: the class itself, the imported
classes, and the classes of the language that fields have. A name that two of them share stands for
the wrong class. What is checked of them is that the class has none of the imported names; the rest
depends on the base record, the name of the template and the types of the fields.
-/
namespace TupleRecord

/-- The class of the language that a type, or the element of an array, names in the source without
its package. -/
def FieldType.shortened? (t : FieldType) : Option Text :=
  (Text.dropStart? Primitive.languagePackage
    (dotted ((binaryElement? t.jvmName).getD t.jvmName))).filter (!·.contains '.')

namespace FieldType

variable {t : FieldType}

theorem shortened?_eq_some_iff {type : Text} :
    t.shortened? = some type ↔
      dotted ((binaryElement? t.jvmName).getD t.jvmName) = Primitive.languagePackage ++ type ∧
        '.' ∉ type := by
  simp [shortened?, Option.filter_eq_some_iff, Text.dropStart?_eq_some_iff]

theorem binaryElement?_jvmName (h : t.Named) (harray : ¬ t.isArray) :
    binaryElement? t.jvmName = none := by
  cases t with
  | primitive p | boxed p => cases p <;> decide
  | string | date | uuid => decide
  | enumeration name | object name => exact binaryElement?_of_isClassName (h name rfl)
  | array element => exact absurd rfl harray

/-- The source has the shortened name. -/
theorem sourceName_of_shortened {type : Text} (h : t.Named) (ht : t.shortened? = some type) :
    t.sourceName = if t.isArray then type ++ "[]" else type := by
  obtain ⟨hname, hdot⟩ := shortened?_eq_some_iff.mp ht
  by_cases harray : t.isArray
  · cases t with
    | array element =>
      have helement : binaryElement? ("[L" ++ element ++ ";") = some element :=
        binaryElement?_eq_some_iff.mpr (by simp)
      unfold jvmName at hname
      rw [helement, Option.getD_some] at hname
      unfold FieldType.sourceName jvmName
      rw [if_pos harray, sourceName_binary, sourceName_of_isClassName (h element rfl),
        classSourceName_of_language hname hdot]
    | _ => cases harray
  · have hnone := binaryElement?_jvmName h harray
    rw [hnone, Option.getD_none] at hname
    rw [if_neg harray, FieldType.sourceName, sourceName_of_binaryElement?_eq_none hnone,
      classSourceName_of_language hname hdot]

end FieldType

namespace RecordClass

/-- The classes of the language that every source may name. -/
def languageTypes : List Text := ["String", "Object"]

/-- The names by which a source has its imported classes. -/
def importedNames (baseRecord : Text) : List Text := (imports baseRecord).map Name.simple

/-- A class in whose source no type name stands for two classes. -/
structure TypesApart (c : RecordClass) (s : Settings) : Prop where
  imports : ∀ a ∈ imports s.baseRecord, ∀ b ∈ imports s.baseRecord,
    Name.simple a = Name.simple b → a = b
  className : c.name ∉ importedNames s.baseRecord
  language : c.name ∉ languageTypes
  fields : ∀ f ∈ c.fields, ∀ type ∈ f.type.shortened?,
    type ≠ c.name ∧ type ∉ importedNames s.baseRecord

end RecordClass

/-- Settings under which the base record is imported by the name of another imported class. -/
def Settings.RepeatsImport (s : Settings) : Prop :=
  '.' ∈ s.baseRecord ∧ Name.simple s.baseRecord ∈ Tuple.importedTypes ∧
    s.baseRecord ∉ Tuple.imports

instance (s : Settings) : Decidable s.RepeatsImport := inferInstanceAs (Decidable (_ ∧ _ ∧ _))

namespace RecordClass

theorem mem_imports_iff {baseRecord name : Text} :
    name ∈ imports baseRecord ↔ name ∈ Tuple.imports ∨ '.' ∈ baseRecord ∧ name = baseRecord := by
  by_cases hdot : '.' ∈ baseRecord <;> simp [imports, hdot]

theorem simple_of_mem_imports {name : Text} (h : name ∈ Tuple.imports) :
    Name.simple name ∈ Tuple.importedTypes ∧
      ∀ other ∈ Tuple.imports, Name.simple name = Name.simple other → name = other := by
  have himports : ∀ a ∈ Tuple.imports, Name.simple a ∈ Tuple.importedTypes ∧
      ∀ b ∈ Tuple.imports, Name.simple a = Name.simple b → a = b := by
    decide
  exact himports name h

/-- Only the base record can be imported by the name of another class. -/
theorem imports_apart_iff {s : Settings} :
    (∀ a ∈ imports s.baseRecord, ∀ b ∈ imports s.baseRecord,
      Name.simple a = Name.simple b → a = b) ↔ ¬ s.RepeatsImport := by
  constructor
  · rintro h ⟨hdot, hsimple, hforeign⟩
    have hlibrary : ∀ x ∈ Tuple.importedTypes, Name.simple (Tuple.libraryPackage ++ x) = x := by
      decide
    have hmem : Tuple.libraryPackage ++ Name.simple s.baseRecord ∈ Tuple.imports :=
      List.mem_map_of_mem hsimple
    have hsame := h _ (mem_imports_iff.mpr (.inr ⟨hdot, rfl⟩)) _ (mem_imports_iff.mpr (.inl hmem))
      (hlibrary _ hsimple).symm
    exact hforeign (hsame ▸ hmem)
  · intro h a ha b hb hab
    have hbase {name : Text} (hname : name ∈ Tuple.imports) (hdot : '.' ∈ s.baseRecord)
        (hsimple : Name.simple name = Name.simple s.baseRecord) : name = s.baseRecord := by
      obtain ⟨htype, hother⟩ := simple_of_mem_imports hname
      refine hother _ (by_contra fun hforeign => h ⟨hdot, ?_, hforeign⟩) hsimple
      rwa [← hsimple]
    rcases mem_imports_iff.mp ha with ha | ⟨hdot, rfl⟩ <;>
      rcases mem_imports_iff.mp hb with hb | ⟨hdot', rfl⟩
    · exact (simple_of_mem_imports ha).2 b hb hab
    · exact hbase ha hdot' hab
    · exact (hbase hb hdot hab.symm).symm
    · rfl

theorem name_notMem_importedNames {s : Settings} {t : Template} (h : Accepted s t) :
    t.className s ∉ importedNames s.baseRecord := by
  rw [importedNames, List.mem_map]
  rintro ⟨name, hname, hsimple⟩
  rcases mem_imports_iff.mp hname with hlibrary | ⟨-, rfl⟩
  · exact h.notImported (hsimple ▸ (simple_of_mem_imports hlibrary).1)
  · exact h.extendsOther hsimple

end RecordClass

namespace CompilationUnit

/-- A generated class never has the name of an imported one. What else would let a type name stand
for two classes is not refused: a foreign base record named like a class of the tuple library, a
class named like one of the language, and a field whose type loses its package and then has the
name of the class or of an imported one. -/
theorem generate_typesApart_iff {s : Settings} {t : Template} {u : CompilationUnit}
    (h : generate s t = .ok u) :
    ∃ c, RecordClass.ofTemplate s t = .ok c ∧ u = c.unit s ∧ c.fields = t.fields ∧
      (∀ f ∈ t.fields, ∀ type ∈ f.type.shortened?,
        f.type.sourceName = if f.type.isArray then type ++ "[]" else type) ∧
      c.name ∉ RecordClass.importedNames s.baseRecord ∧
      (c.TypesApart s ↔ ¬ s.RepeatsImport ∧ c.name ∉ RecordClass.languageTypes ∧
        ∀ f ∈ t.fields, ∀ type ∈ f.type.shortened?,
          type ≠ c.name ∧ type ∉ RecordClass.importedNames s.baseRecord) := by
  obtain ⟨haccepted, rfl⟩ := generate_eq_ok_iff.mp h
  have hname := RecordClass.name_notMem_importedNames haccepted
  refine ⟨t.recordClass s, RecordClass.ofTemplate_eq_ok_iff.mpr ⟨haccepted, rfl⟩, rfl,
    Template.fields_recordClass s t, ?_, hname, ?_⟩
  · intro f hf type htype
    exact FieldType.sourceName_of_shortened (haccepted.valid.fields f hf).type htype
  · rw [← RecordClass.imports_apart_iff, ← Template.fields_recordClass s t]
    exact ⟨fun hapart => ⟨hapart.imports, hapart.language, hapart.fields⟩,
      fun ⟨himports, hlanguage, hfields⟩ => ⟨himports, hname, hlanguage, hfields⟩⟩

theorem generate_typesApart_iff_crowded :
    ∃ u c, generate {} .crowded = .ok u ∧ RecordClass.ofTemplate {} .crowded = .ok c ∧
      u = c.unit {} ∧ c.TypesApart {} := by
  obtain ⟨c, hc, hu, -, -, -, hiff⟩ := generate_typesApart_iff generate_crowded
  refine ⟨_, c, generate_crowded, hc, hu, hiff.mpr ?_⟩
  obtain ⟨-, rfl⟩ := RecordClass.ofTemplate_eq_ok_iff.mp hc
  decide +kernel

/-- A class is generated in whose source a type name stands for two classes. -/
def Captures (s : Settings) (t : Template) : Prop :=
  ∃ c, RecordClass.ofTemplate s t = .ok c ∧ generate s t = .ok (c.unit s) ∧ ¬ c.TypesApart s

theorem captures_of_accepted {s : Settings} {t : Template} (h : Accepted s t)
    (hcapture : s.RepeatsImport ∨ t.className s ∈ RecordClass.languageTypes ∨
      ∃ f ∈ t.fields, f.type.shortened? = some (t.className s)) : Captures s t := by
  refine ⟨t.recordClass s, RecordClass.ofTemplate_eq_ok_iff.mpr ⟨h, rfl⟩,
    generate_eq_ok_iff.mpr ⟨h, rfl⟩, fun hapart => ?_⟩
  rcases hcapture with hrepeats | hlanguage | ⟨f, hf, htype⟩
  · exact RecordClass.imports_apart_iff.mp hapart.imports hrepeats
  · exact hapart.language hlanguage
  · rw [← Template.fields_recordClass s t] at hf
    exact (hapart.fields f hf _ htype).1 rfl

/-- Two imported classes named `Tuple`, a class named `String`, and a class named like the type of
its field. -/
theorem generate_capturing :
    Captures { baseRecord := "org.example.Tuple" }
        ⟨"com.example", "UserDatumTemplate", [⟨"id", .primitive .int, none⟩]⟩ ∧
      Captures {} ⟨"com.example", "String", [⟨"id", .primitive .int, none⟩]⟩ ∧
      Captures {} ⟨"com.example", "Integer", [⟨"id", .boxed .int, none⟩]⟩ := by
  refine ⟨?repeats, ?language, ?shortened⟩
  case repeats => exact captures_of_accepted (by decide +kernel) (.inl (by decide))
  case language => exact captures_of_accepted (by decide +kernel) (.inr (.inl (by decide)))
  case shortened =>
    refine captures_of_accepted (by decide +kernel) (.inr (.inr ⟨_, List.mem_singleton_self _, ?_⟩))
    decide +kernel

end CompilationUnit
end TupleRecord
