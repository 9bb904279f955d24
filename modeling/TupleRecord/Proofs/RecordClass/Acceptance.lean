import TupleRecord.CompilationUnit.Basic
import TupleRecord.Proofs.Template.Validity

/-!
Which templates have a record class, and which class that is. `RecordClass.ofTemplate` succeeds
exactly on the templates that `Accepted` describes, and then gives `Template.recordClass`; all
that is said of generated sources starts from these two.
-/
namespace TupleRecord

/-- The name of the class that a template is for. -/
def Template.className (s : Settings) (t : Template) : Text :=
  Name.exchangeEnding s.templateEnding s.classEnding t.name

/-- A field as a class stores it. -/
def Field.column (f : Field) : Column := ⟨f, f.type.sourceName, Storage.ofType f.type⟩

/-- The class of a template, if it has one. -/
def Template.recordClass (s : Settings) (t : Template) : RecordClass :=
  ⟨t.package, t.className s, t.fields.map Field.column⟩

@[simp] theorem Template.fields_recordClass (s : Settings) (t : Template) :
    (t.recordClass s).fields = t.fields := by
  simp [recordClass, RecordClass.fields, Function.comp_def, Field.column]

/-- A field that a tuple can hold. -/
structure Field.Storable (s : Settings) (f : Field) : Prop where
  flat : f.type.nestedTemplate? s.templateEnding = none
  typed : s.rejectUntyped → Storage.ofType f.type ≠ .direct .object

/-- A template that has a class under the settings. -/
structure Accepted (s : Settings) (t : Template) : Prop where
  valid : t.Valid
  className : Name.isUsable (t.className s)
  base : Name.isQualified s.baseRecord
  extendsOther : Name.simple s.baseRecord ≠ t.className s
  notImported : t.className s ∉ Tuple.importedTypes
  hidesNothing : ∀ f ∈ t.fields, f.bareName ≠ Tuple.fieldsConstant
  keepsGetClass : ∀ f ∈ t.fields, f.getter ≠ "getClass"
  storable : ∀ f ∈ t.fields, f.Storable s
  ownConstructor : ∀ f, t.fields = [f] → f.type.sourceName ≠ "Tuple" ∧
    f.type.sourceName ≠ "TupleEntry"

namespace Template

theorem plan_eq_ok_iff {t : Template} {ending replacement : Text} {p : Plan} :
    t.plan ending replacement = .ok p ↔
      t.Valid ∧ Name.isUsable (Name.exchangeEnding ending replacement t.name) ∧
        p = ⟨t, Name.exchangeEnding ending replacement t.name⟩ := by
  simp only [plan, Except.check_bind_eq_ok_iff, validate_eq_ok_iff]
  by_cases husable : Name.isUsable (Name.exchangeEnding ending replacement t.name)
  · simp only [husable, if_true, Except.ok.injEq, true_and, eq_comm]
  · simp [husable]

end Template

namespace Column

theorem ofField_eq_ok_iff {s : Settings} {f : Field} {c : Column} :
    ofField s f = .ok c ↔ f.Storable s ∧ c = f.column := by
  unfold ofField
  cases hnested : f.type.nestedTemplate? s.templateEnding with
  | some name =>
    refine iff_of_false (by simp) fun h => ?_
    simp [h.1.flat] at hnested
  | none =>
    by_cases huntyped : s.rejectUntyped = true ∧ Storage.ofType f.type = .direct .object
    · rw [if_pos huntyped]
      exact iff_of_false (by simp) fun h => h.1.typed huntyped.1 huntyped.2
    · rw [if_neg huntyped]
      have hstorable : f.Storable s := ⟨hnested, fun hs ht => huntyped ⟨hs, ht⟩⟩
      simp only [hstorable, Except.ok.injEq, true_and]
      exact eq_comm

theorem mapM_ofField_eq_ok_iff {s : Settings} {fields : List Field} {columns : List Column} :
    fields.mapM (ofField s) = .ok columns ↔
      (∀ f ∈ fields, f.Storable s) ∧ columns = fields.map Field.column := by
  induction fields generalizing columns with
  | nil => simp [pure, Except.pure, eq_comm]
  | cons f fields ih =>
    simp only [List.mapM_cons, Except.bind_eq_ok_iff, ofField_eq_ok_iff, ih, pure, Except.pure,
      Except.ok.injEq, List.forall_mem_cons, List.map_cons]
    constructor
    · rintro ⟨c, ⟨hf, rfl⟩, rest, ⟨hfields, rfl⟩, rfl⟩
      exact ⟨⟨hf, hfields⟩, rfl⟩
    · rintro ⟨⟨hf, hfields⟩, rfl⟩
      exact ⟨_, ⟨hf, rfl⟩, _, ⟨hfields, rfl⟩, rfl⟩

end Column

namespace RecordClass

theorem checkNames_eq_ok_iff {s : Settings} {p : Plan} :
    checkNames s p = .ok () ↔
      Name.isQualified s.baseRecord ∧ Name.simple s.baseRecord ≠ p.className ∧
        p.className ∉ Tuple.importedTypes ∧
        (∀ f ∈ p.template.fields, f.bareName ≠ Tuple.fieldsConstant) ∧
        ∀ f ∈ p.template.fields, f.getter ≠ "getClass" := by
  unfold checkNames
  by_cases hbase : Name.isQualified s.baseRecord
  case neg => simp [hbase]
  by_cases hsimple : Name.simple s.baseRecord = p.className
  case pos => simp [hbase, hsimple]
  by_cases himported : p.className ∈ Tuple.importedTypes
  case pos => simp [hbase, hsimple, himported]
  rw [if_neg (by simpa using hbase), if_neg hsimple, if_neg (by simpa using himported)]
  cases hfields : p.template.fields.find? (·.bareName == Tuple.fieldsConstant) with
  | some f =>
    refine iff_of_false (by simp) fun h => ?_
    have hmem := List.mem_of_find?_eq_some hfields
    exact h.2.2.2.1 f hmem (by simpa using List.find?_some hfields)
  | none =>
    cases hgetClass : p.template.fields.find? (·.getter == ("getClass" : Text)) with
    | some f =>
      refine iff_of_false (by simp) fun h => ?_
      have hmem := List.mem_of_find?_eq_some hgetClass
      exact h.2.2.2.2 f hmem (by simpa using List.find?_some hgetClass)
    | none =>
      simp only [List.find?_eq_none, beq_iff_eq] at hfields hgetClass
      exact iff_of_true rfl ⟨hbase, hsimple, himported, hfields, hgetClass⟩

theorem checkConstructors_eq_ok_iff {columns : List Column} :
    checkConstructors columns = .ok () ↔
      ∀ c, columns = [c] → c.sourceType ≠ "Tuple" ∧ c.sourceType ≠ "TupleEntry" := by
  rcases columns with - | ⟨c, - | ⟨d, columns⟩⟩
  · exact iff_of_true rfl fun c hc => by cases hc
  · unfold checkConstructors
    by_cases hclash : c.sourceType = "Tuple" ∨ c.sourceType = "TupleEntry"
    · simp only [if_pos hclash, reduceCtorEq, false_iff]
      intro h
      have hlone := h c rfl
      tauto
    · simp only [if_neg hclash, true_iff]
      rintro d hd
      obtain rfl : c = d := by simpa using hd
      tauto
  · exact iff_of_true rfl fun e he => by cases he

theorem ofTemplate_eq_ok_iff {s : Settings} {t : Template} {c : RecordClass} :
    ofTemplate s t = .ok c ↔ Accepted s t ∧ c = t.recordClass s := by
  simp only [ofTemplate, Except.bind_eq_ok_iff, Except.mapError_eq_ok_iff, Unique.exists_iff,
    PUnit.default_eq_unit, Template.plan_eq_ok_iff, checkNames_eq_ok_iff,
    Column.mapM_ofField_eq_ok_iff, checkConstructors_eq_ok_iff, pure, Except.pure, Except.ok.injEq]
  constructor
  · rintro ⟨p, ⟨hvalid, hname, rfl⟩, ⟨hbase, hother, himported, hfields, hgetClass⟩, columns,
      ⟨hstorable, rfl⟩, hlone, rfl⟩
    refine ⟨⟨hvalid, hname, hbase, hother, himported, hfields, hgetClass, hstorable, ?_⟩, rfl⟩
    intro f hf
    exact hlone f.column (by simp [hf])
  · rintro ⟨h, rfl⟩
    refine ⟨_, ⟨h.valid, h.className, rfl⟩, ⟨h.base, h.extendsOther, h.notImported,
      h.hidesNothing, h.keepsGetClass⟩, _, ⟨h.storable, rfl⟩, ?_, rfl⟩
    intro c hc
    obtain ⟨f, hf, rfl⟩ := List.map_eq_singleton_iff.mp hc
    exact h.ownConstructor f hf

/-- A template is to blame only for what its plan is refused for. -/
theorem plan_of_ofTemplate_eq_error {s : Settings} {t : Template} {e : TemplateError}
    (h : ofTemplate s t = .error (.template e)) :
    t.plan s.templateEnding s.classEnding = .error e := by
  simp only [ofTemplate, Except.bind_eq_error_iff, Except.mapError_eq_error_iff] at h
  rcases h with ⟨e', hplan, he⟩ | ⟨_, _, hlater⟩
  · cases he
    exact hplan
  · rcases hlater with ⟨_, _, he⟩ | ⟨_, _, ⟨_, _, he⟩ | ⟨_, _, ⟨_, _, he⟩ | ⟨_, _, he⟩⟩⟩ <;>
      cases he

end RecordClass

instance (s : Settings) (t : Template) : Decidable (Accepted s t) :=
  decidable_of_iff (RecordClass.ofTemplate s t).toOption.isSome (by
    cases h : RecordClass.ofTemplate s t with
    | error e =>
      refine iff_of_false (by simp [Except.toOption]) fun haccepted => ?_
      rw [RecordClass.ofTemplate_eq_ok_iff.mpr ⟨haccepted, rfl⟩] at h
      cases h
    | ok c => exact iff_of_true rfl (RecordClass.ofTemplate_eq_ok_iff.mp h).1)

/-- A template in which the awkward cases come together: a name that grows in upper case, nested
classes and both spellings of an imported one, and comments that try to end themselves. -/
def Template.crowded : Template where
  package := "com.example"
  name := "CrowdedDatumTemplate"
  fields :=
    [⟨"_ßeta", .primitive .int, some "stops */ here\n\\u002a/ or *\\u002f"⟩,
     ⟨"inner", .object "cascading$tuple.Tuple", some ""⟩,
     ⟨"kind", .enumeration "com.example.Outer$Kind", none⟩,
     ⟨"__tags", .array "java.lang.String", some "one line"⟩,
     ⟨"made", .object "java.util.Date", none⟩]

theorem Accepted.crowded : Accepted {} Template.crowded := by decide +kernel

namespace CompilationUnit

theorem generate_eq_ok_iff {s : Settings} {t : Template} {u : CompilationUnit} :
    generate s t = .ok u ↔ Accepted s t ∧ u = (t.recordClass s).unit s := by
  simp only [generate, Except.bind_eq_ok_iff, RecordClass.ofTemplate_eq_ok_iff, pure, Except.pure,
    Except.ok.injEq]
  constructor
  · rintro ⟨c, ⟨h, rfl⟩, rfl⟩
    exact ⟨h, rfl⟩
  · rintro ⟨h, rfl⟩
    exact ⟨_, ⟨h, rfl⟩, rfl⟩

theorem generate_crowded :
    generate {} .crowded = .ok ((Template.crowded.recordClass {}).unit {}) :=
  generate_eq_ok_iff.mpr ⟨Accepted.crowded, rfl⟩

end CompilationUnit
end TupleRecord
