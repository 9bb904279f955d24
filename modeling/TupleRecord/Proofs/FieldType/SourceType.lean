import TupleRecord.Proofs.FieldType.RoundTrip

/-!
Source names are types of the source. A type that passes its check has a source name that can be
written there: a keyword, a class without a package that it can do without, or an array of such a
class. Neither the spelling of the separators in the name that a type carries nor another look for
the source name changes it.
-/
namespace TupleRecord

/-- A dotted name of a class: identifiers that are not reserved and have no separator inside. -/
def IsSourceClass (name : Text) : Prop :=
  ∀ segment ∈ Text.split '.' name,
    Name.isIdentifier segment ∧ segment ∉ Name.reservedWords ∧ '$' ∉ segment

/-- A class that the source can name without its package. -/
inductive HasSparePackage : Text → Prop where
  | language {simple : Text} (noDot : '.' ∉ simple) : HasSparePackage ("java.lang." ++ simple)
  | library {simple : Text} (imported : simple ∈ (["Fields", "Tuple", "TupleEntry"] : List Text)) :
      HasSparePackage ("cascading.tuple." ++ simple)

/-- The types of fields as the source writes them, arrays apart from all others. -/
inductive IsSourceType : Bool → Text → Prop where
  | keyword (p : Primitive) : IsSourceType false p.keyword
  | single {name : Text} (named : IsSourceClass name) (bare : ¬ HasSparePackage name) :
      IsSourceType false name
  | array {element : Text} (named : IsSourceClass element) (bare : ¬ HasSparePackage element) :
      IsSourceType true (element ++ "[]")

/-- Two separators of nested names, or one character twice. -/
def IsSameSeparator (c d : Char) : Prop := c = d ∨ (c = '.' ∨ c = '$') ∧ (d = '.' ∨ d = '$')

/-- Two types that carry one class name with other separators. -/
inductive Respelled : FieldType → FieldType → Prop where
  | enumeration {a b : Text} (same : List.Forall₂ IsSameSeparator a b) :
      Respelled (.enumeration a) (.enumeration b)
  | object {a b : Text} (same : List.Forall₂ IsSameSeparator a b) :
      Respelled (.object a) (.object b)
  | array {a b : Text} (same : List.Forall₂ IsSameSeparator a b) : Respelled (.array a) (.array b)

/-! ### Classes -/

theorem isSourceClass_of_isQualified {name : Text} (h : Name.isQualified name)
    (hdollar : '$' ∉ name) : IsSourceClass name := by
  intro segment hsegment
  have husable := List.all_eq_true.mp h segment hsegment
  simp only [Name.isUsable, Name.isReserved, Bool.and_eq_true, Bool.not_eq_true',
    List.contains_eq_mem, decide_eq_false_iff_not] at husable
  have hwithin : segment <:+: name := (Text.splitBy_isInfix name).2 segment hsegment
  exact ⟨husable.1, husable.2, fun hmem => hdollar (hwithin.subset hmem)⟩

/-- A class source name has no package to lose, since there would be nothing left of it. -/
theorem not_hasSparePackage_classSourceName (name : Text) :
    ¬ HasSparePackage (classSourceName name) := by
  intro h
  generalize hsource : classSourceName name = source at h
  cases h with
  | @language simple noDot =>
    have hdotted := dotted_classSourceName name
    rw [hsource] at hdotted
    have hsame := classSourceName_classSourceName name
    rw [hsource, classSourceName_of_language hdotted noDot] at hsame
    rw [List.self_eq_append_left] at hsame
    cases hsame
  | @library simple imported => exact classSourceName_ne_library imported hsource

theorem isSourceClass_classSourceName {name : Text} (h : FieldType.isClassName name) :
    IsSourceClass (classSourceName name) :=
  isSourceClass_of_isQualified (isQualified_classSourceName h) (dollar_notMem_classSourceName name)

/-- Brackets at the end are no part of a package at the start. -/
theorem exists_append_of_append_brackets {package source rest : Text} (hpackage : '[' ∉ package)
    (h : source ++ "[]" = package ++ rest) :
    ∃ simple, source = package ++ simple ∧ rest = simple ++ "[]" := by
  rcases List.append_eq_append_iff.mp h with ⟨cut, hsource, hrest⟩ | ⟨cut, hsource, hrest⟩
  · cases cut with
    | nil => exact ⟨[], by simpa using hsource.symm, hrest.symm⟩
    | cons c cut =>
      have hc : '[' = c := (List.cons.inj hrest).1
      rw [hsource, ← hc] at hpackage
      simp at hpackage
  · exact ⟨cut, hsource, hrest⟩

/-- The brackets of an array do not turn its element into a class with a package to lose. -/
theorem classSourceName_brackets (name : Text) :
    classSourceName (classSourceName name ++ "[]") = classSourceName name ++ "[]" := by
  have hdotted : dotted (classSourceName name ++ "[]") = classSourceName name ++ "[]" := by
    apply dotted_of_dollar_notMem
    simp [dollar_notMem_classSourceName]
  rcases classSourceName_cases (classSourceName name ++ "[]") with
    ⟨hlanguage, hdot⟩ | ⟨hlibrary, himported⟩ | ⟨hsame, -⟩
  · -- Without its brackets the element would still have had the package.
    rw [hdotted] at hlanguage
    obtain ⟨simple, hname, hsimple⟩ := exists_append_of_append_brackets (by decide) hlanguage
    have hspare : HasSparePackage (classSourceName name) := by
      rw [hname]
      exact .language fun hmem => hdot (hsimple ▸ List.mem_append_left _ hmem)
    exact absurd hspare (not_hasSparePackage_classSourceName name)
  · rw [hdotted] at hlibrary
    obtain ⟨simple, -, hsimple⟩ := exists_append_of_append_brackets (by decide) hlibrary
    have hnone : ∀ x ∈ Tuple.importedTypes, '[' ∉ x := by decide
    rw [hsimple] at himported
    exact absurd (List.mem_append_right simple (by decide)) (hnone _ himported)
  · rw [← hsame, hdotted]

/-! ### Spelling -/

theorem dotted_eq_of_forall₂ {a b : Text} (h : List.Forall₂ IsSameSeparator a b) :
    dotted a = dotted b := by
  unfold dotted
  induction h with
  | nil => rfl
  | cons hcd _ ih =>
    rw [List.map_cons, List.map_cons, ih]
    congr 1
    rcases hcd with rfl | ⟨rfl | rfl, rfl | rfl⟩ <;> rfl

namespace FieldType

variable {t t' : FieldType}

/-- The source form of a type is a type of the source, and its own source name. -/
theorem isSourceType_sourceForm (h : t.Named) : IsSourceType t.isArray t.sourceForm := by
  have hfixed {name : Text} (hclass : isClassName name) (hname : classSourceName name = name) :
      IsSourceType false name := by
    rw [← hname]
    exact .single (isSourceClass_classSourceName hclass) (not_hasSparePackage_classSourceName name)
  cases t with
  | primitive p => exact .keyword p
  | boxed p => cases p <;> exact hfixed (by decide +kernel) (by decide)
  | string | date | uuid => exact hfixed (by decide +kernel) (by decide)
  | enumeration name | object name =>
    have hclass := h name rfl
    exact .single (isSourceClass_classSourceName hclass) (not_hasSparePackage_classSourceName name)
  | array element =>
    have hclass := h element rfl
    exact .array (isSourceClass_classSourceName hclass)
      (not_hasSparePackage_classSourceName element)

theorem sourceName_sourceForm (h : t.Named) :
    TupleRecord.sourceName t.sourceForm = t.sourceForm := by
  have hclass {name : Text} (hname : isClassName name) :
      TupleRecord.sourceName (classSourceName name) = classSourceName name := by
    rw [sourceName_of_isClassName (isClassName_classSourceName hname),
      classSourceName_classSourceName]
  cases t with
  | primitive p | boxed p =>
    refine (sourceName_of_binaryElement?_eq_none ?_).trans ?_ <;> cases p <;> decide
  | string | date | uuid => refine (sourceName_of_binaryElement?_eq_none ?_).trans ?_ <;> decide
  | enumeration name | object name => exact hclass (h name rfl)
  | array element =>
    -- A binary name ends with a semicolon.
    have hopen : binaryElement? (classSourceName element ++ "[]") = none := by
      rw [Option.eq_none_iff_forall_ne_some]
      intro inner hinner
      have hlast := congrArg List.getLast? (binaryElement?_eq_some_iff.mp hinner)
      simp [List.getLast?_cons] at hlast
    exact (sourceName_of_binaryElement?_eq_none hopen).trans (classSourceName_brackets element)

/-- Other separators are as good, and lead to the same source. -/
theorem sourceForm_of_respelled (h : Respelled t t') (hnamed : t.Named) :
    t'.Named ∧ t'.sourceForm = t.sourceForm := by
  have hclass {a b : Text} (hsame : List.Forall₂ IsSameSeparator a b) (ha : isClassName a) :
      isClassName b ∧ classSourceName b = classSourceName a := by
    have hdotted := dotted_eq_of_forall₂ hsame
    rw [← isQualified_dotted, hdotted, isQualified_dotted] at ha
    exact ⟨ha, classSourceName_congr hdotted.symm⟩
  cases h with
  | @enumeration a b same | @object a b same =>
    obtain ⟨hb, hsource⟩ := hclass same (hnamed a rfl)
    exact ⟨fun name hname => Option.some.inj hname ▸ hb, hsource⟩
  | @array a b same =>
    obtain ⟨hb, hsource⟩ := hclass same (hnamed a rfl)
    exact ⟨fun name hname => Option.some.inj hname ▸ hb, congrArg (· ++ ("[]" : Text)) hsource⟩

/-- The source name of a checked type is a type of the source, with brackets exactly if the type
is an array. It stays as it is when the type is spelled with other separators, and it is the source
name of itself. -/
theorem sourceName_isSourceType (h : t.check = .ok t) :
    IsSourceType t.isArray t.sourceName ∧
      (∀ t', Respelled t t' → t'.check = .ok t' ∧ t'.sourceName = t.sourceName) ∧
      TupleRecord.sourceName t.sourceName = t.sourceName := by
  have hnamed := (check_eq_ok_iff.mp h).1
  have hsource := sourceName_eq_sourceForm hnamed
  refine ⟨?_, fun t' hspelled => ?_, ?_⟩
  · rw [hsource]
    exact isSourceType_sourceForm hnamed
  · obtain ⟨hnamed', hsame⟩ := sourceForm_of_respelled hspelled hnamed
    refine ⟨check_eq_ok_iff.mpr ⟨hnamed', rfl⟩, ?_⟩
    rw [hsource, sourceName_eq_sourceForm hnamed', hsame]
  · rw [hsource]
    exact sourceName_sourceForm hnamed

/-- The element loses its package, however its separators are spelled. -/
theorem sourceName_isSourceType_library :
    let t := array "cascading$tuple.TupleEntry"
    let t' := array "cascading.tuple$TupleEntry"
    t.check = .ok t ∧ t.sourceName = "TupleEntry[]" ∧ IsSourceType t.isArray t.sourceName ∧
      t'.check = .ok t' ∧ t'.sourceName = "TupleEntry[]" ∧
      TupleRecord.sourceName "TupleEntry[]" = "TupleEntry[]" := by
  intro t t'
  have h : t.check = .ok t := by decide +kernel
  have hspelled : Respelled t t' := by
    refine .array ?_
    simp [List.forall₂_cons, IsSameSeparator]
  have hsource : t.sourceName = "TupleEntry[]" := by
    rw [sourceName_eq_sourceForm (check_eq_ok_iff.mp h).1]
    decide
  obtain ⟨htype, hrespelled, htwice⟩ := sourceName_isSourceType h
  obtain ⟨hcheck, hsame⟩ := hrespelled t' hspelled
  rw [hsource] at hsame htwice
  exact ⟨h, hsource, htype, hcheck, hsame, htwice⟩

end FieldType
end TupleRecord
