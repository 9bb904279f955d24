import Mathlib.Data.List.Forall2
import TupleRecord.Proofs.RecordClass.Acceptance

/-!
How names are spelled in a template. The markers of a field and the ending of the template's name
are not shown by the class: of two valid templates that agree in all but these, either both have the
same file or neither has one.
-/
namespace TupleRecord

/-- Fields that differ in their markers at most. -/
structure Field.Alike (f g : Field) : Prop where
  bareName : f.bareName = g.bareName
  type : f.type = g.type
  doc : f.doc = g.doc

/-- Templates for a class of the same name, whose fields differ in their markers at most. -/
structure Template.Alike (s : Settings) (t t' : Template) : Prop where
  package : t.package = t'.package
  className : t.className s = t'.className s
  fields : List.Forall₂ Field.Alike t.fields t'.fields

namespace Field.Alike

variable {s : Settings} {f g : Field} {fields fields' : List Field}

theorem constant (h : f.Alike g) : f.constant = g.constant := by
  rw [Field.constant, h.bareName, Field.constant]

theorem setter (h : f.Alike g) : f.setter = g.setter := by
  rw [Field.setter, h.bareName, Field.setter]

theorem getter (h : f.Alike g) : f.getter = g.getter := by
  rw [Field.getter, h.bareName, Field.getter]

theorem storable (h : f.Alike g) (hf : f.Storable s) : g.Storable s := by
  obtain ⟨hflat, htyped⟩ := hf
  rw [h.type] at hflat htyped
  exact ⟨hflat, htyped⟩

theorem columnParam (h : f.Alike g) : f.column.param = g.column.param := by
  simp only [Column.param, Field.column, h.bareName, h.type]

theorem columnSetter (h : f.Alike g) : f.column.setter = g.column.setter := by
  simp only [Column.setter, Column.param, Field.column, h.bareName, h.type, h.constant, h.setter]

theorem columnGetter (h : f.Alike g) : f.column.getter = g.column.getter := by
  simp only [Column.getter, Field.column, h.type, h.doc, h.constant, h.getter]

/-- What alike fields have in common is the same of both lists. -/
theorem map_eq {β : Type} {view : Field → β} (h : List.Forall₂ Field.Alike fields fields')
    (hview : ∀ {f g : Field}, f.Alike g → view f = view g) :
    fields.map view = fields'.map view := by
  induction h with
  | nil => rfl
  | cons hfg _ ih => rw [List.map_cons, List.map_cons, hview hfg, ih]

theorem forall_mem {p : Field → Prop} (h : List.Forall₂ Field.Alike fields fields')
    (hp : ∀ {f g : Field}, f.Alike g → p f → p g) (hfields : ∀ f ∈ fields, p f) :
    ∀ f ∈ fields', p f := by
  induction h with
  | nil => exact hfields
  | cons hfg _ ih =>
    rw [List.forall_mem_cons] at hfields ⊢
    exact ⟨hp hfg hfields.1, ih hfields.2⟩

end Field.Alike

namespace Template.Alike

variable {s : Settings} {t t' : Template}

/-- No check but validation reads a name as it is spelled. -/
theorem accepted (halike : t.Alike s t') (h : Accepted s t) (hvalid : t'.Valid) :
    Accepted s t' := by
  have hclass := halike.className
  refine ⟨hvalid, hclass ▸ h.className, h.base, hclass ▸ h.extendsOther, hclass ▸ h.notImported,
    ?_, ?_, ?_, ?_⟩
  · exact Field.Alike.forall_mem halike.fields (fun hfg hf => hfg.bareName ▸ hf) h.hidesNothing
  · exact Field.Alike.forall_mem halike.fields (fun hfg hf => hfg.getter ▸ hf) h.keepsGetClass
  · exact Field.Alike.forall_mem halike.fields Field.Alike.storable h.storable
  · intro g hg
    have hfields := halike.fields
    rw [hg, List.forall₂_cons_right_iff] at hfields
    obtain ⟨f, rest, hfg, hrest, hf⟩ := hfields
    obtain rfl := List.forall₂_nil_right_iff.mp hrest
    exact hfg.type ▸ h.ownConstructor f hf

theorem constructors (h : t.Alike s t') :
    (t.recordClass s).constructors = (t'.recordClass s).constructors := by
  have hname : (t.recordClass s).name = (t'.recordClass s).name := h.className
  have hparams : (t.recordClass s).columns.map Column.param =
      (t'.recordClass s).columns.map Column.param := by
    simp only [recordClass, List.map_map]
    exact Field.Alike.map_eq h.fields Field.Alike.columnParam
  have hassignments : t.fields.map RecordClass.assignment = t'.fields.map RecordClass.assignment :=
    Field.Alike.map_eq h.fields fun hfg => by
      simp only [RecordClass.assignment, hfg.setter, hfg.bareName]
  simp only [RecordClass.constructors, RecordClass.emptyConstructor, RecordClass.tupleConstructor,
    RecordClass.entryConstructor, RecordClass.valueConstructor, RecordClass.constructor, hname,
    hparams, fields_recordClass, hassignments]

theorem accessors (h : t.Alike s t') :
    (t.recordClass s).accessors = (t'.recordClass s).accessors := by
  have hcolumns : t.fields.map (fun f => [f.column.setter, f.column.getter]) =
      t'.fields.map fun f => [f.column.setter, f.column.getter] :=
    Field.Alike.map_eq h.fields fun hfg => by rw [hfg.columnSetter, hfg.columnGetter]
  simp only [RecordClass.accessors, recordClass, List.flatMap_map]
  rw [List.flatMap_def, List.flatMap_def, hcolumns]

/-- The source shows names without their markers, and the class by its own name. -/
theorem source (h : t.Alike s t') : (t.recordClass s).source s = (t'.recordClass s).source s := by
  have hpackage : (t.recordClass s).package = (t'.recordClass s).package := h.package
  have hname : (t.recordClass s).name = (t'.recordClass s).name := h.className
  have hconstants : t.fields.map Field.constant = t'.fields.map Field.constant :=
    Field.Alike.map_eq h.fields Field.Alike.constant
  have hlines (className : Text) : t.fields.map (RecordClass.constantLine className) =
      t'.fields.map (RecordClass.constantLine className) :=
    Field.Alike.map_eq h.fields fun hfg => by
      unfold RecordClass.constantLine
      rw [hfg.constant, hfg.bareName]
  unfold RecordClass.source RecordClass.declaration RecordClass.writeConstants
  rw [hpackage, hname, fields_recordClass, fields_recordClass, hconstants, hlines, h.constructors,
    h.accessors]

end Template.Alike

namespace CompilationUnit

/-- A template that is valid and alike one with a unit has a unit too, and it is the same. -/
theorem generate_eq_of_alike {s : Settings} {t t' : Template} {u : CompilationUnit}
    (halike : t.Alike s t') (h : generate s t = .ok u) (hvalid : t'.validate = .ok ()) :
    generate s t' = .ok u := by
  obtain ⟨haccepted, rfl⟩ := generate_eq_ok_iff.mp h
  rw [Template.validate_eq_ok_iff] at hvalid
  refine generate_eq_ok_iff.mpr ⟨halike.accepted haccepted hvalid, ?_⟩
  have hpackage : (t.recordClass s).package = (t'.recordClass s).package := halike.package
  have hname : (t.recordClass s).name = (t'.recordClass s).name := halike.className
  unfold RecordClass.unit
  rw [hpackage, hname, halike.source]

/-- A template with two fields. -/
def visit (name user count : Text) : Template :=
  ⟨"com.example", name, [⟨user, .boxed .long, some "who */ came"⟩, ⟨count, .primitive .int, none⟩]⟩

/-- A template that keeps its name and one that exchanges its ending, with unlike markers. -/
theorem generate_eq_of_alike_visits :
    ∃ u, (visit "VisitDatumTemplate" "_userId" "__count").Alike {}
        (visit "VisitDatum" "userId" "_count") ∧
      generate {} (visit "VisitDatumTemplate" "_userId" "__count") = .ok u ∧
      (visit "VisitDatum" "userId" "_count").validate = .ok () ∧
      generate {} (visit "VisitDatum" "userId" "_count") = .ok u := by
  have halike : (visit "VisitDatumTemplate" "_userId" "__count").Alike {}
      (visit "VisitDatum" "userId" "_count") := by
    refine ⟨rfl, by decide, .cons ⟨by decide, rfl, rfl⟩ (.cons ⟨by decide, rfl, rfl⟩ .nil)⟩
  have haccepted : Accepted {} (visit "VisitDatumTemplate" "_userId" "__count") := by
    decide +kernel
  have hvalid : (visit "VisitDatum" "userId" "_count").validate = .ok () := by decide +kernel
  have h := generate_eq_ok_iff.mpr ⟨haccepted, rfl⟩
  exact ⟨_, halike, h, hvalid, generate_eq_of_alike halike h hvalid⟩

end CompilationUnit
end TupleRecord
