import TupleRecord.Proofs.FieldType.Grammar

/-!
Types by their names. A type that was read from a name is read again from its name at run time, and
its source name is read as a type with the same source name: whatever spelling a name comes in, one
pass settles it.
-/
namespace TupleRecord

/-- Only the dots that separate nested classes matter to the source name of a class. -/
theorem classSourceName_congr {a b : Text} (h : dotted a = dotted b) :
    classSourceName a = classSourceName b := by
  unfold dotted at h
  unfold classSourceName
  simp only [h]

theorem dotted_classSourceName (name : Text) :
    dotted (classSourceName name) = classSourceName name :=
  dotted_of_dollar_notMem (dollar_notMem_classSourceName name)

/-- A source name is its own source name. -/
theorem classSourceName_classSourceName (name : Text) :
    classSourceName (classSourceName name) = classSourceName name := by
  rcases classSourceName_cases name with ⟨-, hdot⟩ | ⟨-, himported⟩ | ⟨hname, -⟩
  · -- Without a dot there is no package to lose.
    have hpackage : '.' ∈ Primitive.languagePackage ∧ '.' ∈ Tuple.libraryPackage := by decide
    have hdotted := dotted_classSourceName name
    rcases classSourceName_cases (classSourceName name) with ⟨h, -⟩ | ⟨h, -⟩ | ⟨h, -⟩
    · rw [hdotted] at h
      exact absurd (h ▸ List.mem_append_left _ hpackage.1) hdot
    · rw [hdotted] at h
      exact absurd (h ▸ List.mem_append_left _ hpackage.2) hdot
    · rw [← h, hdotted]
  · have htypes : ∀ x ∈ Tuple.importedTypes, classSourceName x = x := by decide
    exact htypes _ himported
  · apply classSourceName_congr
    rw [dotted_classSourceName, hname]

theorem isClassName_classSourceName {name : Text} (h : FieldType.isClassName name) :
    FieldType.isClassName (classSourceName name) := by
  rw [← isQualified_dotted, dotted_classSourceName]
  exact isQualified_classSourceName h

namespace FieldType

theorem Denotes.named {name : Text} {t : FieldType} (h : Denotes name t) : t.Named := by
  cases h with
  | array reference spelled =>
    rintro _ ⟨⟩
    exact isClassName_iff.mpr reference
  | object reference other =>
    rintro _ ⟨⟩
    exact isClassName_iff.mpr reference
  | _ => nofun

/-- The name of a type at run time denotes it too. -/
theorem Denotes.jvmName {name : Text} {t : FieldType} (h : Denotes name t) :
    Denotes t.jvmName t := by
  cases h with
  | primitive keyword => exact .primitive rfl
  | array reference spelled => exact .array reference (.inl rfl)
  | boxed box => exact .boxed (.inr rfl)
  | string string => exact .string (.inr rfl)
  | date date => exact .date rfl
  | uuid uuid => exact .uuid rfl
  | object reference other => exact .object reference other

/-- A class name denotes a type that has the source name of the class. -/
theorem exists_denotes_of_isClassName {name : Text} (h : isClassName name) :
    ∃ t, Denotes name t ∧ t.sourceForm = classSourceName name := by
  by_cases hknown : IsKnownClass name
  · rcases hknown with ⟨p, hp⟩ | hstring | hdate | huuid
    · refine ⟨_, .boxed hp, ?_⟩
      rcases hp with rfl | rfl <;> cases p <;> decide
    · refine ⟨_, .string hstring, ?_⟩
      rcases hstring with rfl | rfl <;> decide
    · refine ⟨_, .date hdate, ?_⟩
      rw [hdate]
      decide
    · refine ⟨_, .uuid huuid, ?_⟩
      rw [huuid]
      decide
  · exact ⟨_, .object (isClassName_iff.mp h) hknown, rfl⟩

/-- The source name of a type denotes a type with that source name. -/
theorem exists_denotes_sourceForm {t : FieldType} (h : t.Named) :
    ∃ t', Denotes t.sourceForm t' ∧ t'.sourceForm = t.sourceForm := by
  have hclass {name : Text} (hname : isClassName name) :
      ∃ t', Denotes (classSourceName name) t' ∧ t'.sourceForm = classSourceName name := by
    obtain ⟨t', hdenotes, hsource⟩ :=
      exists_denotes_of_isClassName (isClassName_classSourceName hname)
    exact ⟨t', hdenotes, by rw [hsource, classSourceName_classSourceName]⟩
  cases t with
  | primitive p => exact ⟨_, .primitive rfl, rfl⟩
  | boxed p => exact ⟨_, .boxed (.inl rfl), rfl⟩
  | string => exact ⟨_, .string (.inl rfl), rfl⟩
  | date => exact ⟨_, .date rfl, rfl⟩
  | uuid => exact ⟨_, .uuid rfl, rfl⟩
  | enumeration name | object name => exact hclass (h name rfl)
  | array element =>
    have helement := isClassName_classSourceName (h element rfl)
    refine ⟨.array (classSourceName element), .array (isClassName_iff.mp helement) (.inr rfl), ?_⟩
    exact congrArg (· ++ ("[]" : Text)) (classSourceName_classSourceName element)

theorem isWhiteSpace_of_isClassName {name : Text} (h : isClassName name) :
    ∀ c ∈ name, Unicode.isWhiteSpace c = false := by
  intro c hc
  by_cases hseparator : (c == '.' || c == '$') = true
  · rw [Bool.or_eq_true, beq_iff_eq, beq_iff_eq] at hseparator
    rcases hseparator with rfl | rfl <;> decide
  · rw [Bool.not_eq_true] at hseparator
    obtain ⟨segment, hsegment, hmem⟩ :=
      @Text.mem_splitBy_of_mem (fun c => c == '.' || c == '$') name c hc hseparator
    have husable := List.all_eq_true.mp h segment hsegment
    rw [Name.isUsable, Bool.and_eq_true] at husable
    rw [← Bool.not_eq_true]
    intro hblank
    have hpart := Name.isIdentifierPart_of_mem husable.1 c hmem
    rw [Name.isIdentifierPart_of_isWhiteSpace hblank] at hpart
    cases hpart

/-- The name of a type has no blanks. -/
theorem Denotes.trim {name : Text} {t : FieldType} (h : Denotes name t) :
    Text.trim name = name := by
  have hfixed {text : Text} (htext : text.all fun c => !Unicode.isWhiteSpace c) :
      ∀ c ∈ text, Unicode.isWhiteSpace c = false := by
    simpa using htext
  have hkeywords : ∀ p ∈ Primitive.all, p.keyword.all fun c => !Unicode.isWhiteSpace c := by
    decide
  apply Text.trim_eq_self
  rcases exists_denotes_iff.mp ⟨t, h⟩ with ⟨p, rfl⟩ | hreference | ⟨element, helement, hname⟩
  · exact hfixed (hkeywords p p.mem_all)
  · exact isWhiteSpace_of_isClassName (isClassName_iff.mpr hreference)
  · have hplain := isWhiteSpace_of_isClassName (isClassName_iff.mpr helement)
    rcases hname with rfl | rfl
    · rw [List.forall_mem_append, List.forall_mem_append]
      exact ⟨⟨hfixed (by decide), hplain⟩, hfixed (by decide)⟩
    · rw [List.forall_mem_append]
      exact ⟨hplain, hfixed (by decide)⟩

/-- A type that is read passes its check and is read again from its name at run time. Its source
name is read as a type, possibly another one, that has the same source name. -/
theorem parse_roundTrip {text : Text} {t : FieldType} (h : parse text = .ok t) :
    t.check = .ok t ∧ parse t.jvmName = .ok t ∧
      ∃ t', parse t.sourceName = .ok t' ∧ t'.sourceName = t.sourceName := by
  have hdenotes := parse_eq_ok_iff.mp h
  have hjvm := hdenotes.jvmName
  refine ⟨check_eq_ok_iff.mpr ⟨hdenotes.named, rfl⟩, ?_, ?_⟩
  · rw [parse_eq_ok_iff, hjvm.trim]
    exact hjvm
  · obtain ⟨t', hsource, hform⟩ := exists_denotes_sourceForm hdenotes.named
    rw [sourceName_eq_sourceForm hdenotes.named]
    refine ⟨t', ?_, ?_⟩
    · rw [parse_eq_ok_iff, hsource.trim]
      exact hsource
    · rw [sourceName_eq_sourceForm hsource.named, hform]

/-- The class is nested by its spelling and loses its package with the blanks around it. -/
theorem parse_roundTrip_library :
    ∃ t, parse "\tcascading$tuple.Tuple[] " = .ok t ∧ t.check = .ok t ∧ parse t.jvmName = .ok t ∧
      ∃ t', parse t.sourceName = .ok t' ∧ t' ≠ t ∧ t'.sourceName = t.sourceName := by
  have h : parse "\tcascading$tuple.Tuple[] " = .ok (.array "cascading$tuple.Tuple") := by
    decide +kernel
  have hsource : (array "cascading$tuple.Tuple").sourceName = "Tuple[]" := by
    rw [sourceName_eq_sourceForm (parse_eq_ok_iff.mp h).named]
    decide
  obtain ⟨hcheck, hjvm, t', ht', hsame⟩ := parse_roundTrip h
  refine ⟨_, h, hcheck, hjvm, t', ht', ?_, hsame⟩
  rintro rfl
  rw [hsource] at ht'
  cases ht'

end FieldType
end TupleRecord
