import TupleRecord.Proofs.Name.Word
import TupleRecord.Proofs.Text.Pieces
import TupleRecord.Storage

/-!
Source names of field types. A type that passes its check has a keyword, a qualified name or an
array of one in the source; nested classes are separated by dots there, and the imported classes
of the tuple library have lost their package.
-/
namespace TupleRecord

namespace Name

theorem isQualified_append_cons (a b : Text) :
    isQualified (a ++ '.' :: b) = (isQualified a && isQualified b) := by
  rw [isQualified, Text.split_append_cons, List.all_append]
  rfl

theorem all_isDottedChar_of_isQualified {name : Text} (h : isQualified name) :
    name.all isDottedChar := by
  rw [List.all_eq_true]
  intro c hc
  cases hdot : c == '.' with
  | true => simp [isDottedChar, hdot]
  | false =>
    obtain ⟨segment, hsegment, hmem⟩ := @Text.mem_splitBy_of_mem (· == '.') name c hc hdot
    have husable := List.all_eq_true.mp h segment hsegment
    have hword := List.all_eq_true.mp (all_isWordChar_of_isUsable husable) c hmem
    simp [isDottedChar, hword]

theorem ne_nil_of_isQualified {name : Text} (h : isQualified name) : name ≠ [] := by
  rintro rfl
  simp [isQualified, Text.split, Text.splitBy, isUsable, isIdentifier] at h

end Name

namespace FieldType

/-- The class name that a type carries, if it carries one. -/
def carried? : FieldType → Option Text
  | enumeration name | object name | array name => some name
  | _ => none

/-- Holds of a type that carries nothing but a class name. -/
def Named (t : FieldType) : Prop := ∀ name ∈ t.carried?, isClassName name

theorem requireClassName_eq_ok_iff {whole name : Text} {t t' : FieldType} :
    requireClassName whole name t = .ok t' ↔ isClassName name ∧ t' = t := by
  unfold requireClassName
  by_cases h : isClassName name
  · rw [if_pos h, Except.ok.injEq]
    exact ⟨fun htype => ⟨h, htype.symm⟩, fun htype => htype.2.symm⟩
  · rw [if_neg h]
    simp [h]

theorem check_eq_ok_iff {t t' : FieldType} : t.check = .ok t' ↔ t.Named ∧ t' = t := by
  cases t with
  | enumeration name | object name | array name =>
    simp [check, Named, carried?, requireClassName_eq_ok_iff]
  | _ =>
    simp only [check, Named, carried?, Except.ok.injEq, Option.not_mem_none, false_implies,
      implies_true, true_and]
    exact eq_comm

end FieldType

/-- The separator of nested classes as the source writes it. -/
def dotted (name : Text) : Text := name.map fun c => if c == '$' then '.' else c

theorem dollar_notMem_dotted (name : Text) : '$' ∉ dotted name := by
  simp only [dotted, List.mem_map, not_exists, not_and]
  intro c _ h
  split at h <;> simp_all

theorem dotted_of_dollar_notMem {name : Text} (h : '$' ∉ name) : dotted name = name := by
  rw [dotted]
  conv_rhs => rw [← List.map_id name]
  apply List.map_congr_left
  intro c hc
  have : c ≠ '$' := fun he => h (he ▸ hc)
  simp [this]

/-- Dots do not change whether the segments of a name are usable. -/
theorem isQualified_dotted (name : Text) :
    Name.isQualified (dotted name) = FieldType.isClassName name := by
  have hsplit : Text.split '.' (dotted name) =
      Text.splitBy (fun c => c == '.' || c == '$') name := by
    apply Text.splitBy_map
    · intro c
      by_cases hc : c = '$' <;> simp [hc]
    · intro c hc
      simp_all
  rw [Name.isQualified, FieldType.isClassName, hsplit]

/-- What becomes of a class name: a class of the language or of the tuple library keeps its last
segment alone, and every other one is dotted. -/
theorem classSourceName_cases (name : Text) :
    (dotted name = Primitive.languagePackage ++ classSourceName name ∧
        '.' ∉ classSourceName name) ∨
      (dotted name = Tuple.libraryPackage ++ classSourceName name ∧
        classSourceName name ∈ Tuple.importedTypes) ∨
      (dotted name = classSourceName name ∧
        ∀ x ∈ Tuple.importedTypes, dotted name ≠ Tuple.libraryPackage ++ x) := by
  cases hlanguage : Text.dropStart? Primitive.languagePackage (dotted name) with
  | some simple =>
    have hname : classSourceName name = if simple.contains '.' then dotted name else simple := by
      unfold dotted at hlanguage
      unfold classSourceName dotted
      simp only [hlanguage]
    rw [Text.dropStart?_eq_some_iff] at hlanguage
    by_cases hdot : simple.contains '.'
    · rw [hname, if_pos hdot]
      refine .inr (.inr ⟨rfl, fun x _ he => ?_⟩)
      rw [hlanguage] at he
      cases he
    · rw [hname, if_neg hdot]
      exact .inl ⟨hlanguage, by simpa using hdot⟩
  | none =>
    cases hlibrary : Text.dropStart? Tuple.libraryPackage (dotted name) with
    | some simple =>
      have hname : classSourceName name =
          if Tuple.importedTypes.contains simple then simple else dotted name := by
        unfold dotted at hlanguage hlibrary
        unfold classSourceName dotted
        simp only [hlanguage, hlibrary]
      rw [Text.dropStart?_eq_some_iff] at hlibrary
      by_cases himported : Tuple.importedTypes.contains simple
      · rw [hname, if_pos himported]
        exact .inr (.inl ⟨hlibrary, by simpa using himported⟩)
      · rw [hname, if_neg himported]
        refine .inr (.inr ⟨rfl, fun x hx he => himported ?_⟩)
        rw [hlibrary, List.append_cancel_left_eq] at he
        simpa [he] using hx
    | none =>
      have hname : classSourceName name = dotted name := by
        unfold dotted at hlanguage hlibrary
        unfold classSourceName dotted
        simp only [hlanguage, hlibrary]
      rw [hname]
      refine .inr (.inr ⟨rfl, fun x _ he => ?_⟩)
      rw [Text.dropStart?_eq_some_iff.mpr he] at hlibrary
      cases hlibrary

theorem classSourceName_of_language {name type : Text}
    (h : dotted name = Primitive.languagePackage ++ type) (hdot : '.' ∉ type) :
    classSourceName name = type := by
  have hdrop : Text.dropStart? Primitive.languagePackage (dotted name) = some type :=
    Text.dropStart?_eq_some_iff.mpr h
  unfold dotted at hdrop
  unfold classSourceName
  simp only [hdrop]
  rw [if_neg (by simpa using hdot)]

theorem isQualified_classSourceName {name : Text} (h : FieldType.isClassName name) :
    Name.isQualified (classSourceName name) := by
  rw [← isQualified_dotted] at h
  rcases classSourceName_cases name with ⟨hname, -⟩ | ⟨-, himported⟩ | ⟨hname, -⟩
  · rw [hname, show Primitive.languagePackage ++ classSourceName name =
      "java.lang" ++ '.' :: classSourceName name from rfl, Name.isQualified_append_cons] at h
    exact (Bool.and_eq_true_iff.mp h).2
  · have htypes : ∀ x ∈ Tuple.importedTypes, Name.isQualified x := by decide +kernel
    exact htypes _ himported
  · rwa [hname] at h

theorem dollar_notMem_classSourceName (name : Text) : '$' ∉ classSourceName name := by
  have hdotted := dollar_notMem_dotted name
  intro hmem
  rcases classSourceName_cases name with ⟨hname, -⟩ | ⟨hname, -⟩ | ⟨hname, -⟩ <;>
    exact hdotted (by simp [hname, hmem])

theorem classSourceName_ne_library {name x : Text} (hx : x ∈ Tuple.importedTypes) :
    classSourceName name ≠ Tuple.libraryPackage ++ x := by
  intro he
  rcases classSourceName_cases name with ⟨-, hdot⟩ | ⟨-, himported⟩ | ⟨hname, hlibrary⟩
  · rw [he] at hdot
    exact hdot (List.mem_append_left x (by decide))
  · have htypes : ∀ y ∈ Tuple.importedTypes, ¬ Tuple.libraryPackage <+: y := by decide
    exact htypes _ himported ⟨x, he.symm⟩
  · exact hlibrary x hx (hname.trans he)

theorem binaryElement?_of_isClassName {name : Text} (h : FieldType.isClassName name) :
    binaryElement? name = none := by
  cases hname : binaryElement? name with
  | none => rfl
  | some element =>
    rw [binaryElement?_eq_some_iff] at hname
    rw [← isQualified_dotted] at h
    have hbracket : '[' ∈ dotted name := by simp [hname, dotted]
    have hchar := List.all_eq_true.mp (Name.all_isDottedChar_of_isQualified h) _ hbracket
    exact absurd hchar (by decide)

theorem sourceName_of_binaryElement?_eq_none {name : Text} (h : binaryElement? name = none) :
    sourceName name = classSourceName name := by
  rw [sourceName]
  split <;> simp_all

theorem sourceName_of_isClassName {name : Text} (h : FieldType.isClassName name) :
    sourceName name = classSourceName name :=
  sourceName_of_binaryElement?_eq_none (binaryElement?_of_isClassName h)

theorem sourceName_binary (element : Text) :
    sourceName ("[L" ++ element ++ ";") = sourceName element ++ "[]" := by
  have h : binaryElement? ("[L" ++ element ++ ";") = some element :=
    binaryElement?_eq_some_iff.mpr (by simp)
  rw [sourceName]
  split <;> simp_all

namespace FieldType

/-- The source name of a checked type, without the detour over its name at run time. -/
def sourceForm : FieldType → Text
  | primitive p => p.keyword
  | boxed p => p.box
  | string => "String"
  | enumeration name | object name => classSourceName name
  | date => "java.util.Date"
  | uuid => "java.util.UUID"
  | array element => classSourceName element ++ "[]"

theorem sourceName_eq_sourceForm {t : FieldType} (h : t.Named) : t.sourceName = t.sourceForm := by
  cases t with
  | primitive p | boxed p =>
    refine (sourceName_of_binaryElement?_eq_none ?_).trans ?_ <;> cases p <;> decide +kernel
  | string | date | uuid =>
    refine (sourceName_of_binaryElement?_eq_none ?_).trans ?_ <;> decide +kernel
  | enumeration name | object name => exact sourceName_of_isClassName (h name rfl)
  | array element =>
    have helement := sourceName_of_isClassName (h element rfl)
    unfold FieldType.sourceName jvmName sourceForm
    rw [sourceName_binary, helement]

theorem sourceName_ne_nil {t : FieldType} (h : t.Named) : t.sourceName ≠ [] := by
  rw [sourceName_eq_sourceForm h]
  cases t with
  | primitive p | boxed p => cases p <;> decide
  | string | date | uuid => decide
  | enumeration name | object name =>
    exact Name.ne_nil_of_isQualified (isQualified_classSourceName (h name rfl))
  | array element => exact List.append_ne_nil_of_right_ne_nil _ (by decide)

end FieldType

end TupleRecord
