import TupleRecord.Proofs.FieldType.SourceName
import TupleRecord.Template

/-!
Which templates are valid. The checks of `Template.validate` run over the fields in order and stop
at the first fault; they all pass exactly if each field is sound by itself and no two fields share
a name, a constant or an accessor.
-/
namespace TupleRecord

/-- A field that is sound by itself. -/
structure Field.Valid (f : Field) : Prop where
  named : f.name ≠ []
  usable : Name.isUsable f.bareName
  type : f.type.Named

/-- Two fields that can be in one template. -/
structure Field.Distinct (f g : Field) : Prop where
  bareName : f.bareName ≠ g.bareName
  constant : f.constant ≠ g.constant
  setter : f.setter ≠ g.setter

structure Template.Valid (t : Template) : Prop where
  name : Name.isUsable t.name
  package : t.package = [] ∨ Name.isQualified t.package
  declares : t.fields ≠ []
  fields : ∀ f ∈ t.fields, f.Valid
  distinct : t.fields.Pairwise Field.Distinct

namespace Except

theorem bind_eq_ok_iff {ε α β : Type} {x : Except ε α} {f : α → Except ε β} {b : β} :
    (x >>= f) = .ok b ↔ ∃ a, x = .ok a ∧ f a = .ok b := by
  cases x with
  | error e => simp [bind, Except.bind]
  | ok a => simp [bind, Except.bind]

theorem bind_eq_error_iff {ε α β : Type} {x : Except ε α} {f : α → Except ε β} {e : ε} :
    (x >>= f) = .error e ↔ x = .error e ∨ ∃ a, x = .ok a ∧ f a = .error e := by
  cases x with
  | error e' => simp [bind, Except.bind]
  | ok a => simp [bind, Except.bind]

/-- A check before anything else has to pass. -/
theorem check_bind_eq_ok_iff {ε β : Type} {x : Except ε PUnit} {y : Except ε β} {b : β} :
    (x >>= fun _ => y) = .ok b ↔ x = .ok () ∧ y = .ok b := by
  cases x <;> simp [bind, Except.bind]

theorem mapError_eq_error_iff {ε ε' α : Type} {x : Except ε α} {f : ε → ε'} {e' : ε'} :
    x.mapError f = .error e' ↔ ∃ e, x = .error e ∧ f e = e' := by
  cases x <;> simp [Except.mapError]

theorem mapError_eq_ok_iff {ε ε' α : Type} {x : Except ε α} {f : ε → ε'} {a : α} :
    x.mapError f = .ok a ↔ x = .ok a := by
  cases x <;> simp [Except.mapError]

end Except

namespace Template

theorem checkName_eq_ok_iff {name : Text} : checkName name = .ok () ↔ Name.isUsable name := by
  unfold checkName
  by_cases hempty : name = []
  · simp [hempty, Name.isUsable, Name.isIdentifier]
  · by_cases husable : Name.isUsable name
    · simp [hempty, husable]
    · simp [hempty, husable]

theorem checkPackage_eq_ok_iff {package : Text} :
    checkPackage package = .ok () ↔ package = [] ∨ Name.isQualified package := by
  unfold checkPackage
  by_cases hempty : package = []
  · simp [hempty]
  · rw [if_neg hempty]
    cases hsegment : (Text.split '.' package).find? (!Name.isUsable ·) with
    | some segment =>
      have hmem := List.mem_of_find?_eq_some hsegment
      have hbad := List.find?_some hsegment
      simp only [hempty, false_or, reduceCtorEq, false_iff, Name.isQualified]
      intro hall
      simp [List.all_eq_true.mp hall segment hmem] at hbad
    | none =>
      simp only [List.find?_eq_none] at hsegment
      simpa [hempty, Name.isQualified] using hsegment

theorem checkField_eq_ok_iff {index : Nat} {f : Field} :
    checkField index f = .ok () ↔ f.Valid := by
  have hrefused (h : ¬ (f.name ≠ [] ∧ Name.isUsable f.bareName)) : ¬ f.Valid :=
    fun hvalid => h ⟨hvalid.named, hvalid.usable⟩
  unfold checkField
  by_cases hname : f.name = []
  · rw [if_pos hname]
    exact iff_of_false (by simp) (hrefused (by simp [hname]))
  by_cases hidentifier : Name.isIdentifier f.bareName
  case neg =>
    rw [if_neg hname, if_pos (by simpa using hidentifier)]
    exact iff_of_false (by simp) (hrefused (by simp [Name.isUsable, hidentifier]))
  by_cases hreserved : Name.isReserved f.bareName
  · rw [if_neg hname, if_neg (by simpa using hidentifier), if_pos hreserved]
    exact iff_of_false (by simp) (hrefused (by simp [Name.isUsable, hreserved]))
  rw [if_neg hname, if_neg (by simpa using hidentifier), if_neg hreserved]
  cases hcheck : f.type.check with
  | error e =>
    refine iff_of_false (by simp) fun h => ?_
    rw [FieldType.check_eq_ok_iff.mpr ⟨h.type, rfl⟩] at hcheck
    cases hcheck
  | ok t =>
    have husable : Name.isUsable f.bareName := by simp [Name.isUsable, hidentifier, hreserved]
    exact iff_of_true rfl ⟨hname, husable, (FieldType.check_eq_ok_iff.mp hcheck).1⟩

theorem checkDistinct_eq_ok_iff {earlier : List Field} {f : Field} :
    checkDistinct earlier f = .ok () ↔ ∀ g ∈ earlier, g.Distinct f := by
  unfold checkDistinct
  cases hname : earlier.find? (·.bareName == f.bareName) with
  | some g =>
    refine iff_of_false (by simp) fun h => ?_
    exact (h g (List.mem_of_find?_eq_some hname)).bareName (by simpa using List.find?_some hname)
  | none =>
    cases hconstant : earlier.find? (·.constant == f.constant) with
    | some g =>
      refine iff_of_false (by simp) fun h => ?_
      have hmem := List.mem_of_find?_eq_some hconstant
      exact (h g hmem).constant (by simpa using List.find?_some hconstant)
    | none =>
      cases hsetter : earlier.find? (·.setter == f.setter) with
      | some g =>
        refine iff_of_false (by simp) fun h => ?_
        exact (h g (List.mem_of_find?_eq_some hsetter)).setter
          (by simpa using List.find?_some hsetter)
      | none =>
        simp only [List.find?_eq_none, beq_iff_eq] at hname hconstant hsetter
        exact iff_of_true rfl fun g hg => ⟨hname g hg, hconstant g hg, hsetter g hg⟩

/-- The loop over the fields, with those that it has passed. -/
theorem checkFields_eq_ok_iff {earlier fields : List Field} :
    checkFields earlier fields = .ok () ↔
      (∀ f ∈ fields, f.Valid) ∧ fields.Pairwise Field.Distinct ∧
        ∀ g ∈ earlier, ∀ f ∈ fields, g.Distinct f := by
  induction fields generalizing earlier with
  | nil => simp [checkFields]
  | cons f rest ih =>
    simp only [checkFields, Except.check_bind_eq_ok_iff, checkField_eq_ok_iff,
      checkDistinct_eq_ok_iff, ih, List.forall_mem_cons, List.pairwise_cons, List.forall_mem_append,
      List.not_mem_nil, false_implies, implies_true, and_true]
    constructor
    · rintro ⟨hf, hearlier, hrest, hpairwise, hboth, hlast⟩
      exact ⟨⟨hf, hrest⟩, ⟨hlast, hpairwise⟩, fun g hg => ⟨hearlier g hg, hboth g hg⟩⟩
    · rintro ⟨⟨hf, hrest⟩, ⟨hlast, hpairwise⟩, hboth⟩
      exact ⟨hf, fun g hg => (hboth g hg).1, hrest, hpairwise, fun g hg => (hboth g hg).2, hlast⟩

theorem validate_eq_ok_iff {t : Template} : t.validate = .ok () ↔ t.Valid := by
  simp only [validate, Except.check_bind_eq_ok_iff, checkName_eq_ok_iff, checkPackage_eq_ok_iff]
  by_cases hfields : t.fields = []
  · simp only [hfields, if_true]
    refine iff_of_false (by simp [bind, Except.bind]) fun h => h.declares hfields
  · simp only [hfields, if_false, checkFields_eq_ok_iff]
    constructor
    · rintro ⟨hname, hpackage, hvalid, hdistinct, -⟩
      exact ⟨hname, hpackage, hfields, hvalid, hdistinct⟩
    · intro h
      exact ⟨h.name, h.package, h.fields, h.distinct, by simp⟩

end Template
end TupleRecord
