import Mathlib.Data.List.Forall2
import TupleRecord.Declaration.Template
import TupleRecord.Proofs.Declaration.Marks
import TupleRecord.Proofs.RecordClass.Acceptance

/-!
The template of a declaration. It has one field for each member that is not skipped, in the order
of the members, named and typed by what stands on the member itself. The template is valid, and
stays so under its class name: whatever a declaration is refused for when its class is generated,
it is not the template.
-/
namespace TupleRecord

namespace Name

theorem isIdentifier_append {a b : Text} (ha : isIdentifier a) (hb : b.all isIdentifierPart) :
    isIdentifier (a ++ b) := by
  cases a with
  | nil => cases ha
  | cons c a =>
    simp only [isIdentifier, Bool.and_eq_true] at ha
    simp [isIdentifier, ha, hb]

/-- A start of an identifier is one too, unless nothing is left of it. -/
theorem isIdentifier_of_append {a b : Text} (h : isIdentifier (a ++ b)) (ha : a ≠ []) :
    isIdentifier a := by
  cases a with
  | nil => exact absurd rfl ha
  | cons c a =>
    simp only [List.cons_append, isIdentifier, List.all_append, Bool.and_eq_true] at h ⊢
    exact ⟨h.1, h.2.1⟩

/-- A usable name stays usable with its ending exchanged for a usable one, as long as no reserved
word closes with that. The ending may be all of the name. -/
theorem isUsable_exchangeEnding {ending replacement name : Text} (hname : isUsable name)
    (hreplacement : isUsable replacement)
    (hreserved : ∀ word ∈ reservedWords, ¬ replacement <:+ word) :
    isUsable (exchangeEnding ending replacement name) := by
  unfold exchangeEnding
  split
  · exact hname
  cases hstem : Text.dropEnd? ending name with
  | none => exact hname
  | some stem =>
    rw [Text.dropEnd?_eq_some_iff] at hstem
    simp only [isUsable, Bool.and_eq_true, Bool.not_eq_true'] at hname hreplacement ⊢
    constructor
    · by_cases hempty : stem = []
      · rw [hempty]
        exact hreplacement.1
      · rw [hstem] at hname
        have hpart : replacement.all isIdentifierPart :=
          List.all_eq_true.mpr (isIdentifierPart_of_mem hreplacement.1)
        exact isIdentifier_append (isIdentifier_of_append hname.1 hempty) hpart
    · rw [← Bool.not_eq_true, isReserved, List.contains_iff_mem]
      exact fun hmem => hreserved _ hmem (List.suffix_append stem replacement)

end Name

namespace Declaration

namespace Member

/-- What the attributes of a member set a key to. -/
def mark? (key : Text) (m : Member) : Option Text := setting? key (argumentsOf m.attributes)

def isSkipped (m : Member) : Bool :=
  (argumentsOf m.attributes).any (·.tokens == [.key "skip"])

/-- The type that a member gives its field: the one it is marked with, by name or as an
enumeration, or else the one that its own type stands for. -/
inductive HasType (m : Member) : FieldType → Prop where
  | java {name : Text} {type : FieldType} (marked : m.mark? "java" = some name)
      (alone : m.mark? "enumeration" = none) (parsed : FieldType.parse name = .ok type) :
      HasType m type
  | enumeration {name className : Text} (marked : m.mark? "enumeration" = some name)
      (alone : m.mark? "java" = none) (parsed : FieldType.parse name = .ok (.object className)) :
      HasType m (.enumeration className)
  | default {type : FieldType} (java : m.mark? "java" = none)
      (enumeration : m.mark? "enumeration" = none) (stands : m.type.fieldType? = some type) :
      HasType m type

/-- The field `f` is the one that a member declares. -/
structure Describes (m : Member) (f : Field) : Prop where
  name : f.name = (m.mark? "rename").getD (Name.camelCase m.name)
  type : m.HasType f.type
  doc : f.doc = docOf m.attributes

section

variable {r : AttributeReader}

theorem hasType_of_fieldType (hr : r.Lawful) {m : Member} {marks : MemberMarks} {type : FieldType}
    (hmarks : MemberMarks.read r m.attributes = .ok marks)
    (h : marks.fieldType m.type = .ok type) : m.HasType type := by
  obtain ⟨hafter, hone⟩ := MemberMarks.read_eq_ok hr hmarks
  have hjava : marks.java = m.mark? "java" := by rw [hafter.java, mark?, Option.or_none]
  have henumeration : marks.enumeration = m.mark? "enumeration" := by
    rw [hafter.enumeration, mark?, Option.or_none]
  rw [hjava, henumeration] at hone
  unfold MemberMarks.fieldType at h
  rw [hjava, henumeration] at h
  cases hname : m.mark? "java" with
  | some name =>
    simp only [hname, Except.mapError_eq_ok_iff] at h
    exact .java hname (hone.resolve_left (by rw [hname]; simp)) h
  | none =>
    cases hclass : m.mark? "enumeration" with
    | some name =>
      simp only [hname, hclass] at h
      split at h
      · rename_i className hparse
        cases h
        exact .enumeration hclass hname hparse
      · cases h
    | none =>
      simp only [hname, hclass] at h
      split at h
      · rename_i type' hdefault
        cases h
        exact .default hname hclass hdefault
      · cases h

/-- A skipped member has no field, and every other member has the one that it describes. -/
theorem field_eq_ok (hr : r.Lawful) {m : Member} {result : Option Field}
    (h : m.field r = .ok result) :
    if m.isSkipped then result = none else ∃ f, result = some f ∧ m.Describes f := by
  rw [field, Except.bind_eq_ok_iff] at h
  obtain ⟨marks, hmarks, h⟩ := h
  obtain ⟨hafter, -⟩ := MemberMarks.read_eq_ok hr hmarks
  have hskip : marks.skip = m.isSkipped := by
    rw [Bool.eq_iff_iff, hafter.skip, isSkipped, List.any_eq_true]
    simp
  have hrename : marks.rename = m.mark? "rename" := by
    rw [hafter.rename, mark?, Option.or_none]
  rw [hskip, hrename] at h
  split_ifs at h ⊢
  · cases h
    rfl
  · rw [Except.bind_eq_ok_iff] at h
    obtain ⟨type, htype, h⟩ := h
    cases h
    exact ⟨_, rfl, rfl, hasType_of_fieldType hr hmarks htype, rfl⟩

/-- Fields and members correspond one to one, once the skipped members are left out. -/
theorem mapM_field_eq_ok (hr : r.Lawful) {members : List Member} {results : List (Option Field)}
    (h : members.mapM (field r) = .ok results) :
    List.Forall₂ Describes (members.filter (!·.isSkipped)) (results.filterMap id) := by
  induction members generalizing results with
  | nil =>
    cases h
    exact .nil
  | cons m members ih =>
    rw [List.mapM_cons, Except.bind_eq_ok_iff] at h
    obtain ⟨result, hfield, h⟩ := h
    rw [Except.bind_eq_ok_iff] at h
    obtain ⟨rest, hrest, h⟩ := h
    cases h
    have hresult := field_eq_ok hr hfield
    by_cases hskip : m.isSkipped
    · rw [if_pos hskip] at hresult
      rw [hresult, List.filter_cons_of_neg (by simpa using hskip), List.filterMap_cons_none rfl]
      exact ih hrest
    · rw [if_neg hskip] at hresult
      obtain ⟨f, rfl, hdescribes⟩ := hresult
      rw [List.filter_cons_of_pos (by simpa using hskip),
        List.filterMap_cons_some (f := id) rfl]
      exact .cons hdescribes (ih hrest)

end

end Member

theorem members_eq_ok_iff {shape : Shape} {members : List Member} :
    shape.members = .ok members ↔ shape = .named members := by
  cases shape <;> simp [Shape.members]

end Declaration

/-- A valid template has a class name by the default endings. -/
theorem Template.plan_of_valid {t : Template} (h : t.validate = .ok ()) :
    ∃ p, t.plan ({} : Settings).templateEnding ({} : Settings).classEnding = .ok p := by
  have hvalid := validate_eq_ok_iff.mp h
  have hreplacement : Name.isUsable ({} : Settings).classEnding := by decide +kernel
  have hreserved : ∀ word ∈ Name.reservedWords, ¬ ({} : Settings).classEnding <:+ word := by
    decide +kernel
  have hclass : Name.isUsable (t.className {}) :=
    Name.isUsable_exchangeEnding hvalid.name hreplacement hreserved
  exact ⟨_, plan_eq_ok_iff.mpr ⟨hvalid, hclass, rfl⟩⟩

/-- The default generator finds no fault with a valid template itself. -/
theorem CompilationUnit.generate_of_valid {t : Template} (h : t.validate = .ok ()) :
    (∃ u, generate {} t = .ok u) ∨ (∃ e, generate {} t = .error (.storage e)) ∨
      ∃ fault, generate {} t = .error (.naming fault) := by
  cases hgenerate : generate {} t with
  | ok u => exact .inl ⟨u, rfl⟩
  | error e =>
    cases e with
    | storage e => exact .inr (.inl ⟨e, rfl⟩)
    | naming fault => exact .inr (.inr ⟨fault, rfl⟩)
    | template e =>
      have hclass : RecordClass.ofTemplate {} t = .error (.template e) := by
        simpa [generate, Except.bind_eq_error_iff, pure, Except.pure] using hgenerate
      obtain ⟨p, hp⟩ := t.plan_of_valid h
      rw [RecordClass.plan_of_ofTemplate_eq_error hclass] at hp
      cases hp

namespace Declaration

variable {r : AttributeReader}

theorem template_eq_ok_iff {d : Declaration} {t : Template} :
    d.template r = .ok t ↔ ∃ members marks fields, d.shape = .named members ∧
      ContainerMarks.read r d.attributes = .ok marks ∧
      members.mapM (Member.field r) = .ok fields ∧
      t = ⟨marks.package.getD [], marks.name.getD d.name, fields.filterMap id⟩ ∧
      t.validate = .ok () := by
  simp only [template, Except.bind_eq_ok_iff, members_eq_ok_iff, Except.mapError_eq_ok_iff, pure,
    Except.pure, Except.ok.injEq]
  constructor
  · rintro ⟨members, hshape, marks, hmarks, fields, hfields, _, hvalid, rfl⟩
    exact ⟨members, marks, fields, hshape, hmarks, hfields, rfl, hvalid⟩
  · rintro ⟨members, marks, fields, hshape, hmarks, hfields, rfl, hvalid⟩
    exact ⟨members, hshape, marks, hmarks, fields, hfields, (), hvalid, rfl⟩

/-- The template of a declaration has the fields that its members describe, in their order and
without those that are skipped. It is valid, and the default generator makes a class of it or
refuses it for the storage of a field or for names that would not compile. -/
theorem template_described (hr : r.Lawful) {d : Declaration} {t : Template}
    (h : d.template r = .ok t) :
    (∃ members, d.shape = .named members ∧
      List.Forall₂ Member.Describes (members.filter (!·.isSkipped)) t.fields) ∧
      t.validate = .ok () ∧
      ((∃ u, CompilationUnit.generate {} t = .ok u) ∨
        (∃ e, CompilationUnit.generate {} t = .error (.storage e)) ∨
        ∃ fault, CompilationUnit.generate {} t = .error (.naming fault)) := by
  obtain ⟨members, marks, fields, hshape, -, hfields, rfl, hvalid⟩ := template_eq_ok_iff.mp h
  exact ⟨⟨members, hshape, Member.mapM_field_eq_ok hr hfields⟩, hvalid,
    CompilationUnit.generate_of_valid hvalid⟩

/-- A struct whose members use every way to give a name and a type, and one of which is skipped
although its own type stands for nothing. -/
def account : Declaration where
  name := "Account"
  attributes := [⟨"datum", .arguments [.key "name", .equals, .text "DatumTemplate"]⟩]
  shape := .named
    [⟨"r#_user_id", .path none false [] (.mk "i32" none), []⟩,
     ⟨"cache", .never, [⟨"datum", .arguments [.key "skip"]⟩]⟩,
     ⟨"created", .never,
      [⟨"datum", .arguments [.key "java", .equals, .text " java.util.Date "]⟩]⟩,
     ⟨"kind", .never, [⟨"datum", .arguments [.key "rename", .equals, .text "first", .comma]⟩,
      ⟨"datum", .arguments [.key "enumeration", .equals, .text "com.example.Kind", .comma,
        .key "rename", .equals, .text "__kind"]⟩]⟩,
     ⟨"score", .path none false [] (.mk "Option"
       (some [.type (.path none false [] (.mk "f64" none))])), []⟩]

theorem template_described_account :
    ∃ t, AttributeReader.standard.Lawful ∧ account.template .standard = .ok t ∧
      t.fields.map Field.name = ["_userId", "created", "__kind", "score"] ∧
      (∃ members, account.shape = .named members ∧
        List.Forall₂ Member.Describes (members.filter (!·.isSkipped)) t.fields) ∧
      t.validate = .ok () ∧
      ((∃ u, CompilationUnit.generate {} t = .ok u) ∨
        (∃ e, CompilationUnit.generate {} t = .error (.storage e)) ∨
        ∃ fault, CompilationUnit.generate {} t = .error (.naming fault)) := by
  have h : account.template .standard = .ok ⟨[], "DatumTemplate",
      [⟨"_userId", .primitive .int, none⟩, ⟨"created", .date, none⟩,
       ⟨"__kind", .enumeration "com.example.Kind", none⟩, ⟨"score", .boxed .double, none⟩]⟩ := by
    decide +kernel
  exact ⟨_, AttributeReader.standard_lawful, h, rfl,
    template_described AttributeReader.standard_lawful h⟩

end Declaration
end TupleRecord
