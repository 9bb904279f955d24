import Mathlib.Data.List.Nodup
import TupleRecord.Proofs.RecordClass.Acceptance
import TupleRecord.Proofs.RecordClass.Lines

/-!
No two members of a generated class clash. Validation compares the names and setters of the fields
alone; getters follow their setters, constants end in a way that `FIELDS` does not, and the value
constructor could repeat only the constructors with one parameter.
-/
namespace TupleRecord

open Java

/-- The imported class that a type in the source denotes, if its package is written out, and else
the type itself. Either way its nested classes are separated by dots. -/
def Tuple.canonicalType (type : Text) : Text :=
  match Text.dropStart? libraryPackage (dotted type) with
  | some simple => if importedTypes.contains simple then simple else dotted type
  | none => dotted type

theorem Tuple.canonicalType_eq_self {type : Text} (hdollar : '$' ∉ type)
    (hlibrary : ∀ x ∈ importedTypes, type ≠ libraryPackage ++ x) : canonicalType type = type := by
  rw [canonicalType, dotted_of_dollar_notMem hdollar]
  cases hsimple : Text.dropStart? libraryPackage type with
  | none => rfl
  | some simple =>
    have hnot : simple ∉ importedTypes := fun hmem =>
      hlibrary simple hmem (Text.dropStart?_eq_some_iff.mp hsimple)
    simp [hnot]

/-- A source type is spelled in the one way that its class has. -/
theorem FieldType.canonicalType_sourceName {t : FieldType} (h : t.Named) :
    Tuple.canonicalType t.sourceName = t.sourceName := by
  rw [sourceName_eq_sourceForm h]
  cases t with
  | primitive p | boxed p => cases p <;> decide +kernel
  | string | date | uuid => decide +kernel
  | enumeration name | object name =>
    unfold sourceForm
    exact Tuple.canonicalType_eq_self (dollar_notMem_classSourceName name)
      fun x hx => classSourceName_ne_library hx
  | array element =>
    unfold sourceForm
    apply Tuple.canonicalType_eq_self
    · simp [dollar_notMem_classSourceName element]
    · intro x hx he
      have hlast : ∀ y ∈ Tuple.importedTypes, (Tuple.libraryPackage ++ y).getLast? ≠ some ']' := by
        decide
      exact hlast x hx (by rw [← he]; simp)

namespace Field

theorem constant_ne_fieldsConstant (f : Field) : f.constant ≠ Tuple.fieldsConstant := by
  intro h
  have hlast := congrArg List.getLast? h
  simp [constant, Name.constant, Name.constantEnding, Tuple.fieldsConstant] at hlast

theorem setter_ne_getter (f g : Field) : f.setter ≠ g.getter := by
  intro h
  cases h

theorem setter_ne_getClass (f : Field) : f.setter ≠ "getClass" := by
  intro h
  cases h

/-- The accessors of a field differ in their verb alone. -/
theorem getter_eq_getter_iff {f g : Field} : f.getter = g.getter ↔ f.setter = g.setter := by
  simp [getter, setter, Name.accessor]

end Field

/-- A class no two of whose members clash. -/
structure RecordClass.MembersDistinct (c : RecordClass) : Prop where
  constants : (c.fields.map Field.constant).Nodup
  fieldsConstant : Tuple.fieldsConstant ∉ c.fields.map Field.constant
  accessors : (c.accessors.map Method.name).Nodup
  getClass : ("getClass" : Text) ∉ c.accessors.map Method.name
  params : (c.valueConstructor.params.map Param.name).Nodup
  constructors :
    (c.constructors.map fun m => m.params.map fun p => Tuple.canonicalType p.type).Nodup

namespace Accepted

variable {s : Settings} {t : Template}

theorem accessorNames_recordClass (s : Settings) (t : Template) :
    (t.recordClass s).accessors.map Method.name = t.fields.flatMap fun f => [f.setter, f.getter] := by
  simp [Template.recordClass, RecordClass.accessors, List.map_flatMap, List.flatMap_map,
    Column.setter, Column.getter, Field.column]

theorem accessors_nodup (h : Accepted s t) :
    (t.fields.flatMap fun f => [f.setter, f.getter]).Nodup := by
  rw [List.nodup_flatMap]
  constructor
  · intro f _
    simpa using f.setter_ne_getter f
  · refine h.valid.distinct.imp fun {f g} hfg => ?_
    have hsetter := hfg.setter
    have hgetter : f.getter ≠ g.getter := fun he => hsetter (Field.getter_eq_getter_iff.mp he)
    simp [Function.onFun, List.disjoint_left, hsetter, hgetter, f.setter_ne_getter g,
      (g.setter_ne_getter f).symm]

/-- The constructors around a tuple and around an entry are the only ones that the value
constructor could repeat, since there is a field. -/
theorem constructors_nodup (h : Accepted s t) :
    ((t.recordClass s).constructors.map fun m =>
      m.params.map fun p => Tuple.canonicalType p.type).Nodup := by
  have htuple : ((t.recordClass s).tupleConstructor.params.map fun p =>
      Tuple.canonicalType p.type) = ["Tuple"] := by
    change [Tuple.canonicalType "Tuple"] = ["Tuple"]
    decide +kernel
  have hentry : ((t.recordClass s).entryConstructor.params.map fun p =>
      Tuple.canonicalType p.type) = ["TupleEntry"] := by
    change [Tuple.canonicalType "TupleEntry"] = ["TupleEntry"]
    decide +kernel
  have hvalues : ((t.recordClass s).valueConstructor.params.map fun p =>
      Tuple.canonicalType p.type) = t.fields.map fun f => f.type.sourceName := by
    simp only [Template.recordClass, RecordClass.valueConstructor, RecordClass.constructor,
      List.map_map]
    apply List.map_congr_left
    intro f hf
    exact FieldType.canonicalType_sourceName (h.valid.fields f hf).type
  have hnonempty : t.fields.map (fun f => f.type.sourceName) ≠ [] := by
    simpa using h.valid.declares
  have hlone : ∀ type : Text, type = "Tuple" ∨ type = "TupleEntry" →
      t.fields.map (fun f => f.type.sourceName) ≠ [type] := by
    intro type htype he
    obtain ⟨f, hf, rfl⟩ := List.map_eq_singleton_iff.mp he
    have hown := h.ownConstructor f hf
    exact htype.elim hown.1 hown.2
  simp only [RecordClass.constructors, List.map_cons, List.map_nil, htuple, hentry, hvalues,
    List.nodup_cons, List.mem_cons, List.not_mem_nil, or_false, not_or, not_false_eq_true,
    List.nodup_nil, and_true]
  refine ⟨⟨?_, ?_, hnonempty.symm⟩, ⟨?_, (hlone _ (.inl rfl)).symm⟩, (hlone _ (.inr rfl)).symm⟩
  · exact (List.cons_ne_nil _ _).symm
  · exact (List.cons_ne_nil _ _).symm
  · decide

theorem membersDistinct (h : Accepted s t) : (t.recordClass s).MembersDistinct where
  constants := by
    rw [Template.fields_recordClass, List.Nodup, List.pairwise_map]
    exact h.valid.distinct.imp fun hfg => hfg.constant
  fieldsConstant := by
    rw [Template.fields_recordClass, List.mem_map]
    rintro ⟨f, -, hf⟩
    exact f.constant_ne_fieldsConstant hf
  accessors := by
    rw [accessorNames_recordClass]
    exact h.accessors_nodup
  getClass := by
    rw [accessorNames_recordClass, List.mem_flatMap]
    rintro ⟨f, hf, hname⟩
    rcases List.mem_pair.mp hname with hname | hname
    · exact f.setter_ne_getClass hname.symm
    · exact h.keepsGetClass f hf hname.symm
  params := by
    have hparams : (t.recordClass s).valueConstructor.params.map Param.name =
        t.fields.map Field.bareName := by
      simp [Template.recordClass, RecordClass.valueConstructor, RecordClass.constructor,
        Column.param, Field.column]
    rw [hparams, List.Nodup, List.pairwise_map]
    exact h.valid.distinct.imp fun hfg => hfg.bareName
  constructors := h.constructors_nodup

end Accepted

namespace CompilationUnit

/-- Every source that is generated is that of a class without clashing members, which has the
fields of the template, and a setter and a getter for each of them. All that the class declares
stands in the source. -/
theorem generate_membersDistinct {s : Settings} {t : Template} {u : CompilationUnit}
    (h : generate s t = .ok u) :
    ∃ c, RecordClass.ofTemplate s t = .ok c ∧ u = c.unit s ∧ c.StandsIn s u.source ∧
      c.fields = t.fields ∧
      c.accessors.map Method.name = (t.fields.flatMap fun f => [f.setter, f.getter]) ∧
      c.MembersDistinct := by
  obtain ⟨haccepted, rfl⟩ := generate_eq_ok_iff.mp h
  exact ⟨t.recordClass s, RecordClass.ofTemplate_eq_ok_iff.mpr ⟨haccepted, rfl⟩, rfl,
    RecordClass.standsIn_source _ s, Template.fields_recordClass s t,
    Accepted.accessorNames_recordClass s t, haccepted.membersDistinct⟩

theorem generate_membersDistinct_crowded :
    ∃ u c, generate {} .crowded = .ok u ∧ RecordClass.ofTemplate {} .crowded = .ok c ∧
      u = c.unit {} ∧ c.StandsIn {} u.source ∧ c.MembersDistinct := by
  obtain ⟨c, hc, hu, hstands, -, -, hdistinct⟩ := generate_membersDistinct generate_crowded
  exact ⟨_, c, generate_crowded, hc, hu, hstands, hdistinct⟩

end CompilationUnit
end TupleRecord
