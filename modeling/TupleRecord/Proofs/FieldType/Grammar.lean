import TupleRecord.Proofs.FieldType.SourceName

/-!
The language of type names. `FieldType.parse` accepts the keywords of the primitive types, the names
of classes and the two spellings of arrays of classes, and nothing else; what it makes of a name is
told by the name alone. Neither the language nor the meaning of a name looks at the order in which
the parser tries its cases.
-/
namespace TupleRecord

namespace Primitive

theorem mem_all (p : Primitive) : p ∈ all := by
  cases p <;> decide

theorem ofKeyword?_eq_some_iff {name : Text} {p : Primitive} :
    ofKeyword? name = some p ↔ name = p.keyword := by
  constructor
  · intro h
    have hkeyword := List.find?_some h
    exact (eq_of_beq hkeyword).symm
  · rintro rfl
    cases p <;> decide

theorem ofBoxName?_eq_some_iff {name : Text} {p : Primitive} :
    ofBoxName? name = some p ↔ name = p.box ∨ name = p.boxName := by
  constructor
  · intro h
    unfold ofBoxName? at h
    have hfound := List.find?_some h
    have hbox : p.box = (Text.dropStart? languagePackage name).getD name := eq_of_beq hfound
    cases hpackage : Text.dropStart? languagePackage name with
    | some simple =>
      rw [hpackage, Option.getD_some] at hbox
      rw [Text.dropStart?_eq_some_iff, ← hbox] at hpackage
      exact .inr hpackage
    | none =>
      rw [hpackage, Option.getD_none] at hbox
      exact .inl hbox.symm
  · rintro (rfl | rfl) <;> cases p <;> decide

end Primitive

namespace FieldType

/-- A name whose segments, between dots and dollar signs, are identifiers and no reserved words. -/
def IsReferenceName (name : Text) : Prop :=
  name ≠ [] ∧ ∀ segment ∈ Text.splitBy (fun c => c == '.' || c == '$') name,
    Name.isIdentifier segment ∧ segment ∉ Name.reservedWords

/-- The names of the classes that have a type of their own. Boxes and strings may lack their
package. -/
def IsKnownClass (name : Text) : Prop :=
  (∃ p : Primitive, name = p.box ∨ name = "java.lang." ++ p.box) ∨
    (name = "String" ∨ name = "java.lang.String") ∨ name = "java.util.Date" ∨
      name = "java.util.UUID"

/-- The names of types. -/
def IsTypeName (name : Text) : Prop :=
  (∃ p : Primitive, name = p.keyword) ∨ IsReferenceName name ∨
    ∃ element, IsReferenceName element ∧ (name = "[L" ++ element ++ ";" ∨ name = element ++ "[]")

/-- The type that a name denotes. -/
inductive Denotes (name : Text) : FieldType → Prop where
  | primitive {p : Primitive} (keyword : name = p.keyword) : Denotes name (.primitive p)
  | array {element : Text} (reference : IsReferenceName element)
      (spelled : name = "[L" ++ element ++ ";" ∨ name = element ++ "[]") :
      Denotes name (.array element)
  | boxed {p : Primitive} (box : name = p.box ∨ name = "java.lang." ++ p.box) :
      Denotes name (.boxed p)
  | string (string : name = "String" ∨ name = "java.lang.String") : Denotes name .string
  | date (date : name = "java.util.Date") : Denotes name .date
  | uuid (uuid : name = "java.util.UUID") : Denotes name .uuid
  | object (reference : IsReferenceName name) (other : ¬ IsKnownClass name) :
      Denotes name (.object name)

theorem isClassName_iff {name : Text} : isClassName name ↔ IsReferenceName name := by
  simp only [isClassName, List.all_eq_true, Name.isUsable, Bool.and_eq_true, Bool.not_eq_true',
    Name.isReserved, IsReferenceName, List.contains_eq_mem, decide_eq_false_iff_not]
  constructor
  · intro h
    refine ⟨?_, h⟩
    rintro rfl
    simp [Text.splitBy, Name.isIdentifier] at h
  · exact fun h => h.2

theorem all_isDottedChar_of_isClassName {name : Text} (h : isClassName name) :
    name.all Name.isDottedChar := by
  rw [← isQualified_dotted] at h
  rw [List.all_eq_true]
  intro c hc
  by_cases hdollar : c = '$'
  · rw [hdollar]
    decide
  · have hmem : c ∈ dotted name := List.mem_map.mpr ⟨c, hc, by simp [hdollar]⟩
    exact List.all_eq_true.mp (Name.all_isDottedChar_of_isQualified h) c hmem

theorem bracket_notMem_of_isClassName {name : Text} (h : isClassName name) : '[' ∉ name :=
  Text.notMem_of_all (all_isDottedChar_of_isClassName h) (by decide)

theorem ne_nil_of_isClassName {name : Text} (h : isClassName name) : name ≠ [] :=
  (isClassName_iff.mp h).1

/-- The primitive types, supported or not, are reserved words. -/
theorem not_primitive_of_isClassName {name : Text} (h : isClassName name) :
    Primitive.ofKeyword? name = none ∧ isUnsupportedPrimitive name = false := by
  have hreserved : ∀ word ∈
      Primitive.all.map Primitive.keyword ++ (["byte", "char", "void"] : List Text),
      ¬ isClassName word := by
    decide +kernel
  rw [List.forall_mem_append] at hreserved
  constructor
  · cases hname : Primitive.ofKeyword? name with
    | none => rfl
    | some p =>
      obtain rfl := Primitive.ofKeyword?_eq_some_iff.mp hname
      exact absurd h (hreserved.1 _ (List.mem_map_of_mem p.mem_all))
  · rw [← Bool.not_eq_true]
    intro hname
    exact hreserved.2 name (by simpa [isUnsupportedPrimitive] using hname) h

theorem isClassName_of_isKnownClass {name : Text} (h : IsKnownClass name) : isClassName name := by
  have hknown : ∀ name ∈ Primitive.all.map Primitive.box ++ Primitive.all.map Primitive.boxName ++
      (["String", "java.lang.String", "java.util.Date", "java.util.UUID"] : List Text),
      isClassName name := by
    decide +kernel
  simp only [List.forall_mem_append, List.forall_mem_map, List.forall_mem_cons] at hknown
  obtain ⟨⟨hbox, hboxName⟩, hstring, hqualified, hdate, huuid, -⟩ := hknown
  rcases h with ⟨p, rfl | rfl⟩ | (rfl | rfl) | rfl | rfl
  · exact hbox p p.mem_all
  · exact hboxName p p.mem_all
  · exact hstring
  · exact hqualified
  · exact hdate
  · exact huuid

/-! ### The cases of the parser -/

theorem parseBinaryArray_eq_ok_iff {whole descriptor : Text} {t : FieldType} :
    parseBinaryArray whole descriptor = .ok t ↔
      ∃ element, isClassName element ∧ descriptor = 'L' :: (element ++ [';']) ∧
        t = .array element := by
  have hbody {element : Text} : (Text.dropStart? "L" descriptor).bind (Text.dropEnd? ";") =
      some element ↔ descriptor = 'L' :: (element ++ [';']) := by
    simp [Option.bind_eq_some_iff, Text.dropStart?_eq_some_iff, Text.dropEnd?_eq_some_iff]
  unfold parseBinaryArray
  by_cases hnested : descriptor.head? = some '['
  · rw [if_pos hnested]
    refine iff_of_false (by simp) ?_
    rintro ⟨element, -, rfl, -⟩
    simp at hnested
  rw [if_neg hnested]
  cases helement : (Text.dropStart? "L" descriptor).bind (Text.dropEnd? ";") with
  | some element =>
    rw [hbody] at helement
    simp only [requireClassName_eq_ok_iff]
    constructor
    · rintro ⟨hclass, rfl⟩
      exact ⟨element, hclass, helement, rfl⟩
    · rintro ⟨element', hclass, hdescriptor, rfl⟩
      obtain rfl : element = element' := by simpa [helement] using hdescriptor
      exact ⟨hclass, rfl⟩
  | none =>
    refine iff_of_false (by simp) ?_
    rintro ⟨element, -, hdescriptor, -⟩
    rw [hbody.mpr hdescriptor] at helement
    cases helement

theorem parseSourceArray_eq_ok_iff {whole element : Text} {t : FieldType} :
    parseSourceArray whole element = .ok t ↔ isClassName element ∧ t = .array element := by
  unfold parseSourceArray
  by_cases hclass : isClassName element
  case neg =>
    have hrefused : requireClassName whole element (.array element) ≠ .ok t :=
      fun h => hclass (requireClassName_eq_ok_iff.mp h).1
    refine iff_of_false ?_ fun h => hclass h.1
    split_ifs <;> simp [hrefused]
  have hnested : ¬ Text.endsWith "[]" element := by
    intro hend
    obtain ⟨inner, hinner⟩ := Option.isSome_iff_exists.mp hend
    rw [Text.dropEnd?_eq_some_iff] at hinner
    exact bracket_notMem_of_isClassName hclass (by simp [hinner])
  have hprimitive :
      ¬ ((Primitive.ofKeyword? element).isSome || isUnsupportedPrimitive element) := by
    simp [not_primitive_of_isClassName hclass]
  rw [if_neg hnested, if_neg hprimitive, requireClassName_eq_ok_iff]

/-- A name without brackets that the parser knows or that names some other class. -/
theorem parseSimple_eq_ok_iff {name : Text} {t : FieldType} :
    parseSimple name = .ok t ↔ Denotes name t ∧ ¬ t.isArray := by
  constructor
  · intro h
    unfold parseSimple at h
    cases hkeyword : Primitive.ofKeyword? name with
    | some p =>
      simp only [hkeyword, Except.ok.injEq] at h
      exact h ▸ ⟨.primitive (Primitive.ofKeyword?_eq_some_iff.mp hkeyword), nofun⟩
    | none =>
      cases hbox : Primitive.ofBoxName? name with
      | some p =>
        simp only [hkeyword, hbox] at h
        split_ifs at h
        cases h
        exact ⟨.boxed (Primitive.ofBoxName?_eq_some_iff.mp hbox), nofun⟩
      | none =>
        simp only [hkeyword, hbox] at h
        split_ifs at h with _ hstring hdate huuid
        · cases h
          exact ⟨.string hstring.symm, nofun⟩
        · cases h
          exact ⟨.date hdate, nofun⟩
        · cases h
          exact ⟨.uuid huuid, nofun⟩
        · obtain ⟨hclass, rfl⟩ := requireClassName_eq_ok_iff.mp h
          refine ⟨.object (isClassName_iff.mp hclass) ?_, nofun⟩
          rintro (⟨p, hp⟩ | hknown | hknown | hknown)
          · rw [Primitive.ofBoxName?_eq_some_iff.mpr hp] at hbox
            cases hbox
          · exact hstring hknown.symm
          · exact hdate hknown
          · exact huuid hknown
  · rintro ⟨h, harray⟩
    cases h with
    | array => exact absurd rfl harray
    | primitive keyword =>
      rename_i p
      rw [keyword]
      cases p <;> decide +kernel
    | boxed box =>
      rename_i p
      rcases box with rfl | rfl <;> cases p <;> decide +kernel
    | string string => rcases string with rfl | rfl <;> decide +kernel
    | date date =>
      rw [date]
      decide +kernel
    | uuid uuid =>
      rw [uuid]
      decide +kernel
    | object reference other =>
      have hclass := isClassName_iff.mpr reference
      have hbox : Primitive.ofBoxName? name = none := by
        rw [Option.eq_none_iff_forall_ne_some]
        exact fun p hp => other (.inl ⟨p, Primitive.ofBoxName?_eq_some_iff.mp hp⟩)
      obtain ⟨hkeyword, hunsupported⟩ := not_primitive_of_isClassName hclass
      unfold parseSimple
      simp only [hkeyword, hunsupported, hbox]
      rw [if_neg (by decide), if_neg fun h => other (.inr (.inl h.symm)),
        if_neg fun h => other (.inr (.inr (.inl h))), if_neg fun h => other (.inr (.inr (.inr h))),
        requireClassName_eq_ok_iff]
      exact ⟨hclass, rfl⟩

/-- Only arrays are written with brackets. -/
theorem Denotes.isArray {name : Text} {t : FieldType} (h : Denotes name t) (hname : '[' ∈ name) :
    t.isArray := by
  contrapose! hname
  cases h with
  | array => exact absurd rfl hname
  | primitive keyword =>
    rename_i p
    rw [keyword]
    cases p <;> decide
  | boxed box =>
    rename_i p
    rcases box with rfl | rfl <;> cases p <;> decide
  | string string => rcases string with rfl | rfl <;> decide
  | date date =>
    rw [date]
    decide
  | uuid uuid =>
    rw [uuid]
    decide
  | object reference other => exact bracket_notMem_of_isClassName (isClassName_iff.mpr reference)

theorem Denotes.spelled {name : Text} {t : FieldType} (h : Denotes name t) (ht : t.isArray) :
    ∃ element, isClassName element ∧
      (name = '[' :: 'L' :: (element ++ [';']) ∨ name = element ++ "[]") ∧ t = .array element := by
  cases h with
  | array reference spelled =>
    exact ⟨_, isClassName_iff.mpr reference, spelled.imp_left fun h => by simpa using h, rfl⟩
  | _ => cases ht

/-- What is read of a name is what it denotes. -/
theorem parse_eq_ok_iff {text : Text} {t : FieldType} :
    parse text = .ok t ↔ Denotes (Text.trim text) t := by
  unfold parse
  simp only
  generalize Text.trim text = name
  cases hbinary : Text.dropStart? "[" name with
  | some descriptor =>
    rw [Text.dropStart?_eq_some_iff] at hbinary
    simp only [parseBinaryArray_eq_ok_iff]
    constructor
    · rintro ⟨element, hclass, rfl, rfl⟩
      exact .array (isClassName_iff.mp hclass) (.inl (by simpa using hbinary))
    · intro h
      obtain ⟨element, hclass, hname, rfl⟩ := h.spelled (h.isArray (by simp [hbinary]))
      rcases hname with hname | hname
      · exact ⟨element, hclass, by simpa [hbinary] using hname, rfl⟩
      · obtain ⟨c, rest, rfl⟩ := List.exists_cons_of_ne_nil (ne_nil_of_isClassName hclass)
        rw [hname] at hbinary
        obtain rfl : c = '[' := (List.cons.inj hbinary).1
        exact absurd List.mem_cons_self (bracket_notMem_of_isClassName hclass)
  | none =>
    have hopen : ∀ descriptor, name ≠ '[' :: descriptor := by
      rintro descriptor rfl
      simp [Text.dropStart?] at hbinary
    cases hsource : Text.dropEnd? "[]" name with
    | some element =>
      rw [Text.dropEnd?_eq_some_iff] at hsource
      simp only [parseSourceArray_eq_ok_iff]
      constructor
      · rintro ⟨hclass, rfl⟩
        exact .array (isClassName_iff.mp hclass) (.inr hsource)
      · intro h
        obtain ⟨element', hclass, hname, rfl⟩ := h.spelled (h.isArray (by simp [hsource]))
        rcases hname with hname | hname
        · exact absurd hname (hopen _)
        · obtain rfl : element' = element := by simpa [hsource] using hname.symm
          exact ⟨hclass, rfl⟩
    | none =>
      simp only [parseSimple_eq_ok_iff, and_iff_left_iff_imp]
      intro h harray
      obtain ⟨element, -, hname, -⟩ := h.spelled harray
      rcases hname with hname | hname
      · exact hopen _ hname
      · rw [Text.dropEnd?_eq_some_iff.mpr hname] at hsource
        cases hsource

/-! ### What is refused -/

theorem name_of_requireClassName {whole name : Text} {t : FieldType} {e : TypeError}
    (h : requireClassName whole name t = .error e) : e.name = whole := by
  unfold requireClassName at h
  split_ifs at h
  cases h
  rfl

theorem name_of_parseSimple {name : Text} {e : TypeError} (h : parseSimple name = .error e) :
    e.name = name := by
  unfold parseSimple at h
  cases hkeyword : Primitive.ofKeyword? name with
  | some p => simp [hkeyword] at h
  | none =>
    cases hbox : Primitive.ofBoxName? name with
    | some p =>
      simp only [hkeyword, hbox] at h
      split_ifs at h
      cases h
      rfl
    | none =>
      simp only [hkeyword, hbox] at h
      split_ifs at h
      · cases h
        rfl
      · exact name_of_requireClassName h

/-- A refusal names the text that was read, without the blanks around it. -/
theorem name_of_parse {text : Text} {e : TypeError} (h : parse text = .error e) :
    e.name = Text.trim text := by
  unfold parse at h
  simp only at h
  generalize Text.trim text = name at h ⊢
  cases hbinary : Text.dropStart? "[" name with
  | some descriptor =>
    simp only [hbinary] at h
    unfold parseBinaryArray at h
    split_ifs at h
    · cases h
      rfl
    · split at h
      · exact name_of_requireClassName h
      · cases h
        rfl
  | none =>
    cases hsource : Text.dropEnd? "[]" name with
    | some element =>
      simp only [hbinary, hsource] at h
      unfold parseSourceArray at h
      split_ifs at h
      · cases h
        rfl
      · cases h
        rfl
      · exact name_of_requireClassName h
    | none =>
      simp only [hbinary, hsource] at h
      exact name_of_parseSimple h

/-- The names of types are those that denote one. -/
theorem exists_denotes_iff {name : Text} : (∃ t, Denotes name t) ↔ IsTypeName name := by
  have hknown (h : IsKnownClass name) : IsTypeName name :=
    .inr (.inl (isClassName_iff.mp (isClassName_of_isKnownClass h)))
  constructor
  · rintro ⟨t, h⟩
    cases h with
    | primitive keyword => exact .inl ⟨_, keyword⟩
    | array reference spelled => exact .inr (.inr ⟨_, reference, spelled⟩)
    | object reference other => exact .inr (.inl reference)
    | boxed box => exact hknown (.inl ⟨_, box⟩)
    | string string => exact hknown (.inr (.inl string))
    | date date => exact hknown (.inr (.inr (.inl date)))
    | uuid uuid => exact hknown (.inr (.inr (.inr uuid)))
  · rintro (⟨p, hp⟩ | hreference | ⟨element, helement, hspelled⟩)
    · exact ⟨_, .primitive hp⟩
    · by_cases hknown : IsKnownClass name
      · rcases hknown with ⟨p, hp⟩ | hstring | hdate | huuid
        · exact ⟨_, .boxed hp⟩
        · exact ⟨_, .string hstring⟩
        · exact ⟨_, .date hdate⟩
        · exact ⟨_, .uuid huuid⟩
      · exact ⟨_, .object hreference hknown⟩
    · exact ⟨_, .array helement hspelled⟩

/-- A text is read as a type exactly if it is the name of one between blanks, and then as the type
that the name denotes, which is never an enumeration. Every other text is refused by its name. -/
theorem parse_typeName (text : Text) :
    ((∃ t, parse text = .ok t) ↔ IsTypeName (Text.trim text)) ∧
      (∀ t, parse text = .ok t ↔ Denotes (Text.trim text) t) ∧
      (∀ name, parse text ≠ .ok (.enumeration name)) ∧
      (¬ IsTypeName (Text.trim text) → ∃ fault, parse text = .error ⟨Text.trim text, fault⟩) := by
  have haccepts : (∃ t, parse text = .ok t) ↔ IsTypeName (Text.trim text) := by
    simp only [parse_eq_ok_iff, exists_denotes_iff]
  refine ⟨haccepts, fun t => parse_eq_ok_iff, fun name h => ?_, fun h => ?_⟩
  · cases parse_eq_ok_iff.mp h
  · cases hparse : parse text with
    | ok t => exact absurd (haccepts.mp ⟨t, hparse⟩) h
    | error e => exact ⟨e.fault, by rw [← name_of_parse hparse]⟩

/-- An array of a nested class in its binary form, and an array of a primitive type. -/
theorem parse_typeName_arrays :
    parse " [Lcom.example.Outer$Inner;\n" = .ok (.array "com.example.Outer$Inner") ∧
      ¬ IsTypeName (Text.trim " int[]") ∧
        ∃ fault, parse " int[]" = .error ⟨Text.trim " int[]", fault⟩ := by
  obtain ⟨-, hdenotes, -, -⟩ := parse_typeName " [Lcom.example.Outer$Inner;\n"
  obtain ⟨haccepts, -, -, hrefused⟩ := parse_typeName " int[]"
  have htrim : Text.trim " [Lcom.example.Outer$Inner;\n" = "[Lcom.example.Outer$Inner;" := by
    decide
  have helement : IsReferenceName "com.example.Outer$Inner" :=
    isClassName_iff.mp (by decide +kernel)
  have hname : ¬ IsTypeName (Text.trim " int[]") := by
    have herror : parse " int[]" = .error ⟨"int[]", .primitiveArray⟩ := by decide
    rw [← haccepts, herror]
    rintro ⟨t, ht⟩
    cases ht
  refine ⟨(hdenotes _).mpr (.array helement (.inl ?_)), hname, hrefused hname⟩
  rw [htrim]
  rfl

end FieldType
end TupleRecord
