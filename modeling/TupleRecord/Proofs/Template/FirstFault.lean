import Mathlib.Data.List.Nodup
import TupleRecord.Proofs.Template.Validity

/-!
Which fault of a template is reported. Validation accepts exactly the templates whose names are
usable and whose fields are sound together. Of unsound fields it finds the first that cannot stand
behind those before it, and of that field the first check that fails; nothing after the field
counts.
-/
namespace TupleRecord

/-- Fields that can be declared together: each passes the checks that look at it alone, and no two
share a name, a constant or a setter. -/
structure SoundFields (fields : List Field) : Prop where
  named : ∀ f ∈ fields, f.name ≠ []
  usable : ∀ f ∈ fields, Name.isUsable f.bareName
  typed : ∀ f ∈ fields, f.type.check = .ok f.type
  bareNames : (fields.map Field.bareName).Nodup
  constants : (fields.map Field.constant).Nodup
  setters : (fields.map Field.setter).Nodup

/-- A template whose name, package and number of fields are no reason to refuse it. -/
structure Template.Headed (t : Template) : Prop where
  name : Name.isUsable t.name
  package : t.package = [] ∨ ∀ segment ∈ Text.split '.' t.package, Name.isUsable segment
  declares : t.fields ≠ []

/-- The error of a field that cannot stand behind the fields `earlier`: of the checks, in this
order, the first that it fails. A field that it collides with is the only one to collide with. -/
inductive Field.Fault (earlier : List Field) (f : Field) : TemplateError → Prop where
  | missingName (unnamed : f.name = []) : Fault earlier f (.missingFieldName earlier.length)
  | invalidName (named : f.name ≠ []) (invalid : ¬ Name.isIdentifier f.bareName) :
      Fault earlier f (.invalidFieldName f.name)
  | reservedWord (named : f.name ≠ []) (identifier : Name.isIdentifier f.bareName)
      (reserved : Name.isReserved f.bareName) : Fault earlier f (.reservedWord f.name f.bareName)
  | unsupportedType {error : TypeError} (named : f.name ≠ []) (usable : Name.isUsable f.bareName)
      (refused : f.type.check = .error error) : Fault earlier f (.unsupportedType error f.name)
  | duplicateField {g : Field} (sound : SoundFields [f])
      (shared : earlier.filter (·.bareName == f.bareName) = [g]) :
      Fault earlier f (.duplicateField f.bareName g.name f.name)
  | constantCollision {g : Field} (sound : SoundFields [f])
      (bareName : f.bareName ∉ earlier.map Field.bareName)
      (shared : earlier.filter (·.constant == f.constant) = [g]) :
      Fault earlier f (.constantCollision g.name f.name f.constant)
  | accessorCollision {g : Field} (sound : SoundFields [f])
      (bareName : f.bareName ∉ earlier.map Field.bareName)
      (constant : f.constant ∉ earlier.map Field.constant)
      (shared : earlier.filter (·.setter == f.setter) = [g]) :
      Fault earlier f (.accessorCollision g.name f.name f.setter)

theorem soundFields_iff {fields : List Field} :
    SoundFields fields ↔ (∀ f ∈ fields, f.Valid) ∧ fields.Pairwise Field.Distinct := by
  constructor
  · intro h
    refine ⟨fun f hf => ⟨h.named f hf, h.usable f hf, ?_⟩, ?_⟩
    · exact (FieldType.check_eq_ok_iff.mp (h.typed f hf)).1
    · have hnames := List.pairwise_map.mp h.bareNames
      have hconstants := List.pairwise_map.mp h.constants
      have hsetters := List.pairwise_map.mp h.setters
      exact (hnames.and (hconstants.and hsetters)).imp fun hfg => ⟨hfg.1, hfg.2.1, hfg.2.2⟩
  · rintro ⟨hvalid, hdistinct⟩
    exact {
      named := fun f hf => (hvalid f hf).named
      usable := fun f hf => (hvalid f hf).usable
      typed := fun f hf => FieldType.check_eq_ok_iff.mpr ⟨(hvalid f hf).type, rfl⟩
      bareNames := List.pairwise_map.mpr (hdistinct.imp fun hfg => hfg.bareName)
      constants := List.pairwise_map.mpr (hdistinct.imp fun hfg => hfg.constant)
      setters := List.pairwise_map.mpr (hdistinct.imp fun hfg => hfg.setter) }

theorem SoundFields.sublist {fields some : List Field} (h : SoundFields fields)
    (hsome : some.Sublist fields) : SoundFields some := by
  rw [soundFields_iff] at h ⊢
  exact ⟨fun f hf => h.1 f (hsome.subset hf), h.2.sublist hsome⟩

theorem soundFields_singleton {f : Field} : SoundFields [f] ↔ f.Valid := by
  simp [soundFields_iff]

/-- A key that no two elements share is found where it is, and nowhere else. -/
theorem filter_eq_singleton_of_find? {α β : Type} [BEq β] [LawfulBEq β] {key : α → β} {l : List α}
    {k : β} {a : α} (hl : (l.map key).Nodup) (h : l.find? (key · == k) = some a) :
    l.filter (key · == k) = [a] := by
  induction l with
  | nil => cases h
  | cons b l ih =>
    rw [List.map_cons, List.nodup_cons] at hl
    by_cases hb : key b = k
    · rw [List.find?_cons_of_pos (by simpa using hb)] at h
      have hrest : l.filter (key · == k) = [] := by
        rw [List.filter_eq_nil_iff]
        intro c hc hk
        refine hl.1 (List.mem_map.mpr ⟨c, hc, ?_⟩)
        rw [hb]
        simpa using hk
      rw [List.filter_cons_of_pos (by simpa using hb), hrest, Option.some.inj h]
    · rw [List.find?_cons_of_neg (by simpa using hb)] at h
      rw [List.filter_cons_of_neg (by simpa using hb)]
      exact ih hl.2 h

theorem find?_eq_none_iff_notMem {α β : Type} [BEq β] [LawfulBEq β] {key : α → β} {l : List α}
    {k : β} : l.find? (key · == k) = none ↔ k ∉ l.map key := by
  simp [List.find?_eq_none]

theorem find?_eq_some_of_filter {α : Type} {p : α → Bool} {l : List α} {a : α}
    (h : l.filter p = [a]) : l.find? p = some a := by
  rw [← List.head?_filter, h]
  rfl

namespace Template

/-- The checks of one field behind others. -/
def checkNext (earlier : List Field) (f : Field) : Except TemplateError Unit := do
  checkField earlier.length f
  checkDistinct earlier f

theorem fault_of_checkField {earlier : List Field} {f : Field} {e : TemplateError}
    (h : checkField earlier.length f = .error e) : f.Fault earlier e := by
  unfold checkField at h
  by_cases hname : f.name = []
  · rw [if_pos hname] at h
    cases h
    exact .missingName hname
  rw [if_neg hname] at h
  by_cases hidentifier : Name.isIdentifier f.bareName
  case neg =>
    rw [if_pos (by simpa using hidentifier)] at h
    cases h
    exact .invalidName hname hidentifier
  rw [if_neg (by simpa using hidentifier)] at h
  by_cases hreserved : Name.isReserved f.bareName
  · rw [if_pos hreserved] at h
    cases h
    exact .reservedWord hname hidentifier hreserved
  rw [if_neg hreserved] at h
  cases hcheck : f.type.check with
  | error error =>
    rw [hcheck] at h
    cases h
    exact .unsupportedType hname (by simp [Name.isUsable, hidentifier, hreserved]) hcheck
  | ok type =>
    rw [hcheck] at h
    cases h

theorem fault_of_checkDistinct {earlier : List Field} {f : Field} {e : TemplateError}
    (hearlier : SoundFields earlier) (hf : SoundFields [f])
    (h : checkDistinct earlier f = .error e) : f.Fault earlier e := by
  unfold checkDistinct at h
  cases hname : earlier.find? (·.bareName == f.bareName) with
  | some g =>
    rw [hname] at h
    cases h
    exact .duplicateField hf (filter_eq_singleton_of_find? hearlier.bareNames hname)
  | none =>
    rw [hname] at h
    cases hconstant : earlier.find? (·.constant == f.constant) with
    | some g =>
      rw [hconstant] at h
      cases h
      exact .constantCollision hf (find?_eq_none_iff_notMem.mp hname)
        (filter_eq_singleton_of_find? hearlier.constants hconstant)
    | none =>
      rw [hconstant] at h
      cases hsetter : earlier.find? (·.setter == f.setter) with
      | some g =>
        rw [hsetter] at h
        cases h
        exact .accessorCollision hf (find?_eq_none_iff_notMem.mp hname)
          (find?_eq_none_iff_notMem.mp hconstant)
          (filter_eq_singleton_of_find? hearlier.setters hsetter)
      | none =>
        rw [hsetter] at h
        cases h

theorem checkNext_of_fault {earlier : List Field} {f : Field} {e : TemplateError}
    (h : f.Fault earlier e) : checkNext earlier f = .error e := by
  have hpass (hf : SoundFields [f]) : checkNext earlier f = checkDistinct earlier f := by
    have hcheck : checkField earlier.length f = .ok () :=
      checkField_eq_ok_iff.mpr (soundFields_singleton.mp hf)
    rw [checkNext, hcheck]
    rfl
  cases h with
  | missingName unnamed => simp [checkNext, checkField, unnamed, bind, Except.bind]
  | invalidName named invalid => simp [checkNext, checkField, named, invalid, bind, Except.bind]
  | reservedWord named identifier reserved =>
    simp [checkNext, checkField, named, identifier, reserved, bind, Except.bind]
  | unsupportedType named usable refused =>
    simp only [Name.isUsable, Bool.and_eq_true, Bool.not_eq_true'] at usable
    simp [checkNext, checkField, named, usable, refused, bind, Except.bind]
  | duplicateField sound shared =>
    rw [hpass sound, checkDistinct, find?_eq_some_of_filter shared]
  | constantCollision sound bareName shared =>
    rw [hpass sound, checkDistinct, find?_eq_none_iff_notMem.mpr bareName,
      find?_eq_some_of_filter shared]
  | accessorCollision sound bareName constant shared =>
    rw [hpass sound, checkDistinct, find?_eq_none_iff_notMem.mpr bareName,
      find?_eq_none_iff_notMem.mpr constant, find?_eq_some_of_filter shared]

/-- Behind sound fields the checks of the next one find its fault. -/
theorem checkNext_eq_error_iff {earlier : List Field} {f : Field} {e : TemplateError}
    (h : SoundFields earlier) : checkNext earlier f = .error e ↔ f.Fault earlier e := by
  refine ⟨fun herror => ?_, checkNext_of_fault⟩
  rcases Except.bind_eq_error_iff.mp herror with hfield | ⟨_, hfield, hdistinct⟩
  · exact fault_of_checkField hfield
  · have hf := soundFields_singleton.mpr (checkField_eq_ok_iff.mp hfield)
    exact fault_of_checkDistinct h hf hdistinct

theorem checkFields_cons (earlier : List Field) (f : Field) (rest : List Field) :
    checkFields earlier (f :: rest) =
      checkNext earlier f >>= fun _ => checkFields (earlier ++ [f]) rest := by
  rw [checkFields, checkNext]
  cases checkField earlier.length f <;> rfl

/-- The loop stops where the checks of the next field fail. -/
theorem checkFields_eq_error_iff {earlier fields : List Field} {e : TemplateError} :
    checkFields earlier fields = .error e ↔
      ∃ i f, fields[i]? = some f ∧ checkFields earlier (fields.take i) = .ok () ∧
        checkNext (earlier ++ fields.take i) f = .error e := by
  induction fields generalizing earlier with
  | nil => simp [checkFields]
  | cons f rest ih =>
    rw [checkFields_cons, Except.bind_eq_error_iff]
    constructor
    · rintro (hfirst | ⟨_, hfirst, hrest⟩)
      · exact ⟨0, f, rfl, rfl, by simpa using hfirst⟩
      · obtain ⟨i, g, hg, hbefore, hnext⟩ := ih.mp hrest
        refine ⟨i + 1, g, hg, ?_, by simpa using hnext⟩
        rw [List.take_succ_cons, checkFields_cons, hfirst]
        exact hbefore
    · rintro ⟨i, g, hg, hbefore, hnext⟩
      cases i with
      | zero =>
        obtain rfl : f = g := by simpa using hg
        exact .inl (by simpa using hnext)
      | succ i =>
        rw [List.take_succ_cons, checkFields_cons, Except.check_bind_eq_ok_iff] at hbefore
        exact .inr ⟨(), hbefore.1, ih.mpr ⟨i, g, hg, hbefore.2, by simpa using hnext⟩⟩

theorem checkFields_eq_ok_iff_sound {fields : List Field} :
    checkFields [] fields = .ok () ↔ SoundFields fields := by
  rw [checkFields_eq_ok_iff, soundFields_iff]
  simp

/-- Behind a fault nothing is looked at. -/
theorem checkFields_append_of_error {earlier fields : List Field} {e : TemplateError}
    (h : checkFields earlier fields = .error e) (more : List Field) :
    checkFields earlier (fields ++ more) = .error e := by
  rw [checkFields_eq_error_iff] at h ⊢
  obtain ⟨i, f, hf, hbefore, hnext⟩ := h
  obtain ⟨hi, -⟩ := List.getElem?_eq_some_iff.mp hf
  have htake : (fields ++ more).take i = fields.take i := List.take_append_of_le_length hi.le
  exact ⟨i, f, by rw [List.getElem?_append_left hi, hf], by rwa [htake], by rwa [htake]⟩

/-- The first index at which fields are not sound is that of the field whose fault is found. -/
theorem checkFields_eq_error_iff_fault {fields : List Field} {e : TemplateError} :
    checkFields [] fields = .error e ↔
      ∃ i f, fields[i]? = some f ∧ ¬ SoundFields (fields.take (i + 1)) ∧
        (∀ j < i, SoundFields (fields.take (j + 1))) ∧ f.Fault (fields.take i) e := by
  rw [checkFields_eq_error_iff]
  constructor
  · rintro ⟨i, f, hf, hbefore, hnext⟩
    have hsound := checkFields_eq_ok_iff_sound.mp hbefore
    refine ⟨i, f, hf, ?_, fun j hj => ?_, (checkNext_eq_error_iff hsound).mp hnext⟩
    · have htake : (fields.take (i + 1)).take i = fields.take i := by
        rw [List.take_take, min_eq_left i.le_succ]
      have herror : checkFields [] (fields.take (i + 1)) = .error e := by
        rw [checkFields_eq_error_iff]
        exact ⟨i, f, by simp [hf], by rwa [htake], by rwa [htake]⟩
      intro h
      rw [checkFields_eq_ok_iff_sound.mpr h] at herror
      cases herror
    · exact hsound.sublist (List.take_sublist_take_left hj)
  · rintro ⟨i, f, hf, -, hleast, hfault⟩
    have hsound : SoundFields (fields.take i) := by
      cases i with
      | zero => exact checkFields_eq_ok_iff_sound.mp rfl
      | succ i => exact hleast i i.lt_succ_self
    exact ⟨i, f, hf, checkFields_eq_ok_iff_sound.mpr hsound, checkNext_of_fault hfault⟩

theorem validate_of_headed {t : Template} (h : t.Headed) :
    t.validate = checkFields [] t.fields := by
  have hpackage : t.package = [] ∨ Name.isQualified t.package :=
    h.package.imp_right List.all_eq_true.mpr
  unfold validate
  rw [checkName_eq_ok_iff.mpr h.name, checkPackage_eq_ok_iff.mpr hpackage, if_neg h.declares]
  rfl

theorem headed_of_validate {t : Template} (h : t.validate = .ok ()) : t.Headed := by
  have hvalid := validate_eq_ok_iff.mp h
  exact ⟨hvalid.name, hvalid.package.imp_right List.all_eq_true.mp, hvalid.declares⟩

/-- A template is accepted exactly if its names are usable and its fields sound. If it is its
fields that are refused, the error is the first fault of the first of them that is not sound
behind the others, and further fields do not change it. -/
theorem validate_firstFault (t : Template) :
    (t.validate = .ok () ↔ t.Headed ∧ SoundFields t.fields) ∧
      (t.Headed → ∀ e,
        (t.validate = .error e ↔
          ∃ i f, t.fields[i]? = some f ∧ ¬ SoundFields (t.fields.take (i + 1)) ∧
            (∀ j < i, SoundFields (t.fields.take (j + 1))) ∧ f.Fault (t.fields.take i) e) ∧
        (t.validate = .error e → ∀ more,
          ({ t with fields := t.fields ++ more } : Template).validate = .error e)) := by
  refine ⟨⟨fun h => ?_, fun ⟨hhead, hsound⟩ => ?_⟩, fun hhead e => ⟨?_, fun h more => ?_⟩⟩
  · have hhead := headed_of_validate h
    rw [validate_of_headed hhead] at h
    exact ⟨hhead, checkFields_eq_ok_iff_sound.mp h⟩
  · rw [validate_of_headed hhead]
    exact checkFields_eq_ok_iff_sound.mpr hsound
  · rw [validate_of_headed hhead]
    exact checkFields_eq_error_iff_fault
  · have hmore : ({ t with fields := t.fields ++ more } : Template).Headed :=
      ⟨hhead.name, hhead.package, List.append_ne_nil_of_left_ne_nil hhead.declares more⟩
    rw [validate_of_headed hhead] at h
    rw [validate_of_headed hmore]
    exact checkFields_append_of_error h more

/-- Two fields whose accessors alone are the same, with a field behind them that has no name. -/
def colliding : Template :=
  ⟨"com.example", "UserDatumTemplate", [⟨"_aB", .string, none⟩, ⟨"url", .date, none⟩,
    ⟨"__AB", .primitive .int, none⟩, ⟨"", .uuid, none⟩]⟩

theorem validate_firstFault_colliding :
    colliding.Headed ∧
      colliding.validate = .error (.accessorCollision "_aB" "__AB" "setAB") ∧
      (∃ i f, colliding.fields[i]? = some f ∧ ¬ SoundFields (colliding.fields.take (i + 1)) ∧
        (∀ j < i, SoundFields (colliding.fields.take (j + 1))) ∧
        f.Fault (colliding.fields.take i) (.accessorCollision "_aB" "__AB" "setAB")) ∧
      ∀ more, ({ colliding with fields := colliding.fields ++ more } : Template).validate =
        .error (.accessorCollision "_aB" "__AB" "setAB") := by
  have hhead : colliding.Headed := ⟨by decide, .inr (by decide), by decide⟩
  have herror : colliding.validate = .error (.accessorCollision "_aB" "__AB" "setAB") := by
    decide +kernel
  obtain ⟨hfault, hmore⟩ := (validate_firstFault colliding).2 hhead _
  exact ⟨hhead, herror, hfault.mp herror, hmore herror⟩

end Template
end TupleRecord
