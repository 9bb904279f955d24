import TupleRecord.Proofs.Declaration.Fields

/-!
The types of members that need no mark. A few shapes of types have a default, told by the last
segment of a path and of its argument. The default of an optional type is found from that of its
argument, where a string that may be absent looks like a string: some deeper nestings of `Option`
are taken for strings too, and no others are.
-/
namespace TupleRecord.Declaration

/-- The types without arguments that have a default. -/
def plainTypes : List (Text × FieldType) :=
  [("bool", .primitive .boolean), ("i16", .primitive .short), ("i32", .primitive .int),
    ("i64", .primitive .long), ("f32", .primitive .float), ("f64", .primitive .double),
    ("String", .string), ("Uuid", .uuid), ("SystemTime", .date)]

namespace TypeExpr

/-- A name that stands alone. -/
def named (name : Text) : TypeExpr := .path none false [] (.mk name none)

/-- A name that is applied to one type. -/
def applied (name : Text) (argument : TypeExpr) : TypeExpr :=
  .path none false [] (.mk name (some [.type argument]))

/-- A path that ends in `name`, without arguments. -/
inductive IsNamed (name : Text) : TypeExpr → Prop where
  | intro (leading : Bool) (front : List Segment) :
      IsNamed name (.path none leading front (.mk name none))

/-- A path that ends in `name` and applies it to one type. -/
inductive IsApplied (name : Text) : TypeExpr → TypeExpr → Prop where
  | intro (leading : Bool) (front : List Segment) (argument : TypeExpr) :
      IsApplied name (.path none leading front (.mk name (some [.type argument]))) argument

/-- The shapes that are meant to have a default. -/
inductive HasDefault (type : TypeExpr) : FieldType → Prop where
  | plain {name : Text} {fieldType : FieldType} (named : type.IsNamed name)
      (known : (name, fieldType) ∈ plainTypes) : HasDefault type fieldType
  | optional {argument : TypeExpr} {name : Text} {p : Primitive}
      (applied : type.IsApplied "Option" argument) (named : argument.IsNamed name)
      (scalar : (name, .primitive p) ∈ plainTypes) : HasDefault type (.boxed p)
  | optionalString {argument : TypeExpr} (applied : type.IsApplied "Option" argument)
      (named : argument.IsNamed "String") : HasDefault type .string
  | strings {argument : TypeExpr} (applied : type.IsApplied "Vec" argument)
      (named : argument.IsNamed "String") : HasDefault type (.array "java.lang.String")

/-- A string that is optional any number of times. -/
inductive IsText : TypeExpr → Prop where
  | string {type : TypeExpr} (named : type.IsNamed "String") : IsText type
  | optional {type argument : TypeExpr} (applied : type.IsApplied "Option" argument)
      (text : argument.IsText) : IsText type

/-- The shapes that have a default although they are nested too deeply: an optional string where a
string should be. -/
inductive Overnested (type : TypeExpr) : FieldType → Prop where
  | optional {argument text : TypeExpr} (outer : type.IsApplied "Option" argument)
      (inner : argument.IsApplied "Option" text) (string : text.IsText) :
      Overnested type .string
  | strings {argument text : TypeExpr} (outer : type.IsApplied "Vec" argument)
      (inner : argument.IsApplied "Option" text) (string : text.IsText) :
      Overnested type (.array "java.lang.String")

end TypeExpr

theorem plainType?_eq_some_iff {name : Text} {fieldType : FieldType} :
    plainType? name = some fieldType ↔ (name, fieldType) ∈ plainTypes := by
  have htable : ∀ entry ∈ plainTypes, plainType? entry.1 = some entry.2 := by decide
  constructor
  · intro h
    unfold plainType? at h
    split_ifs at h with hstring huuid htime
    · cases h
      rw [hstring]
      decide
    · cases h
      rw [huuid]
      decide
    · cases h
      rw [htime]
      decide
    · obtain ⟨p, hscalar, rfl⟩ := Option.map_eq_some_iff.mp h
      unfold scalar? at hscalar
      split_ifs at hscalar with hname hname hname hname hname hname <;>
        (cases hscalar; rw [hname]; decide)
  · exact htable (name, fieldType)

theorem optionalType?_eq_some_iff {inner outer : FieldType} :
    optionalType? inner = some outer ↔
      (∃ p, inner = .primitive p ∧ outer = .boxed p) ∨ inner = .string ∧ outer = .string := by
  cases inner <;> simp [optionalType?, eq_comm]

theorem listType?_eq_some_iff {inner outer : FieldType} :
    listType? inner = some outer ↔ inner = .string ∧ outer = .array "java.lang.String" := by
  cases inner with
  | string =>
    have hlist : listType? .string = some (.array "java.lang.String") := rfl
    rw [hlist, Option.some.injEq, eq_comm]
    exact (and_iff_right rfl).symm
  | _ => exact iff_of_false nofun nofun

namespace TypeExpr

theorem IsNamed.fieldType? {type : TypeExpr} {name : Text} (h : type.IsNamed name) :
    type.fieldType? = plainType? name := by
  cases h
  rw [TypeExpr.fieldType?]

theorem IsApplied.fieldType?_optional {type argument : TypeExpr}
    (h : type.IsApplied "Option" argument) :
    type.fieldType? = argument.fieldType?.bind optionalType? := by
  cases h
  exact (TypeExpr.fieldType?.eq_2 ..).trans (if_pos rfl)

theorem IsApplied.fieldType?_list {type argument : TypeExpr}
    (h : type.IsApplied "Vec" argument) :
    type.fieldType? = argument.fieldType?.bind listType? := by
  cases h
  exact (TypeExpr.fieldType?.eq_2 ..).trans ((if_neg (by decide)).trans (if_pos rfl))

theorem IsNamed.not_isApplied {type argument : TypeExpr} {name applied : Text}
    (h : type.IsNamed name) : ¬ type.IsApplied applied argument := by
  cases h
  exact nofun

theorem IsApplied.unique {type argument argument' : TypeExpr} {name name' : Text}
    (h : type.IsApplied name argument) (h' : type.IsApplied name' argument') :
    name = name' ∧ argument = argument' := by
  cases h
  cases h'
  exact ⟨rfl, rfl⟩

/-- Where a default comes from: a name, or the default of the argument of `Option` or `Vec`. -/
theorem fieldType?_cases {type : TypeExpr} {fieldType : FieldType}
    (h : type.fieldType? = some fieldType) :
    (∃ name, type.IsNamed name ∧ (name, fieldType) ∈ plainTypes) ∨
      (∃ argument inner, type.IsApplied "Option" argument ∧ argument.fieldType? = some inner ∧
        optionalType? inner = some fieldType) ∨
      ∃ argument inner, type.IsApplied "Vec" argument ∧ argument.fieldType? = some inner ∧
        listType? inner = some fieldType := by
  fun_cases TypeExpr.fieldType? type with
  | case1 leading front name =>
    exact .inl ⟨name, .intro leading front, plainType?_eq_some_iff.mp h⟩
  | case2 leading front argument =>
    obtain ⟨inner, hinner, houter⟩ := Option.bind_eq_some_iff.mp h
    exact .inr (.inl ⟨argument, inner, .intro leading front argument, hinner, houter⟩)
  | case3 leading front argument =>
    obtain ⟨inner, hinner, houter⟩ := Option.bind_eq_some_iff.mp h
    exact .inr (.inr ⟨argument, inner, .intro leading front argument, hinner, houter⟩)
  | case4 leading front name argument hoption hlist =>
    rw [TypeExpr.fieldType?.eq_2, if_neg hoption, if_neg hlist] at h
    cases h
  | case5 _ hplain happlied =>
    rw [TypeExpr.fieldType?.eq_3 _ hplain happlied] at h
    cases h

/-- A primitive type is the default of a scalar's name only. -/
theorem exists_isNamed_of_primitive {type : TypeExpr} {p : Primitive}
    (h : type.fieldType? = some (.primitive p)) :
    ∃ name, type.IsNamed name ∧ (name, .primitive p) ∈ plainTypes := by
  obtain hplain | ⟨_, inner, -, -, houter⟩ | ⟨_, inner, -, -, houter⟩ := fieldType?_cases h
  · exact hplain
  · obtain ⟨_, -, hbox⟩ | ⟨-, hstring⟩ := optionalType?_eq_some_iff.mp houter
    · cases hbox
    · cases hstring
  · cases (listType?_eq_some_iff.mp houter).2

theorem IsText.fieldType? {type : TypeExpr} (h : type.IsText) : type.fieldType? = some .string := by
  induction h with
  | string named => rw [named.fieldType?, plainType?_eq_some_iff]; decide
  | optional applied text ih => rw [applied.fieldType?_optional, ih]; rfl

/-- The default is a string only if the type is one, behind any number of `Option`. -/
theorem isText_of_fieldType? {type : TypeExpr} (h : type.fieldType? = some .string) :
    type.IsText := by
  have hname : ∀ entry ∈ plainTypes, entry.2 = .string → entry.1 = "String" := by decide
  induction type using TypeExpr.fieldType?.induct with
  | case1 leading front name =>
    have hstring : name = "String" := hname (name, .string) (plainType?_eq_some_iff.mp h) rfl
    rw [hstring]
    exact .string (.intro leading front)
  | case2 leading front argument ih =>
    have happlied : IsApplied "Option" _ argument := .intro leading front argument
    rw [happlied.fieldType?_optional] at h
    obtain ⟨inner, hinner, houter⟩ := Option.bind_eq_some_iff.mp h
    obtain ⟨_, -, hbox⟩ | ⟨rfl, -⟩ := optionalType?_eq_some_iff.mp houter
    · cases hbox
    · exact .optional happlied (ih hinner)
  | case3 leading front argument ih =>
    -- The default behind `Vec` is an array.
    have happlied : IsApplied "Vec" _ argument := .intro leading front argument
    rw [happlied.fieldType?_list] at h
    obtain ⟨inner, -, houter⟩ := Option.bind_eq_some_iff.mp h
    cases (listType?_eq_some_iff.mp houter).2
  | case4 leading front name argument hoption hlist =>
    rw [TypeExpr.fieldType?.eq_2, if_neg hoption, if_neg hlist] at h
    cases h
  | case5 type hplain happlied =>
    rw [TypeExpr.fieldType?.eq_3 _ hplain happlied] at h
    cases h

theorem HasDefault.fieldType? {type : TypeExpr} {fieldType : FieldType}
    (h : type.HasDefault fieldType) : type.fieldType? = some fieldType := by
  cases h with
  | plain named known => rw [named.fieldType?, plainType?_eq_some_iff.mpr known]
  | optional applied named scalar =>
    rw [applied.fieldType?_optional, named.fieldType?, plainType?_eq_some_iff.mpr scalar]
    rfl
  | optionalString applied named => exact (IsText.optional applied (.string named)).fieldType?
  | strings applied named =>
    rw [applied.fieldType?_list, (IsText.string named).fieldType?]
    rfl

theorem Overnested.fieldType? {type : TypeExpr} {fieldType : FieldType}
    (h : type.Overnested fieldType) : type.fieldType? = some fieldType := by
  cases h with
  | optional outer inner string =>
    exact (IsText.optional outer (.optional inner string)).fieldType?
  | strings outer inner string =>
    rw [outer.fieldType?_list, (IsText.optional inner string).fieldType?]
    rfl

/-- No type that is nested too deeply has a shape that is meant to have a default. -/
theorem Overnested.not_hasDefault {type : TypeExpr} {fieldType fieldType' : FieldType}
    (h : type.Overnested fieldType) : ¬ type.HasDefault fieldType' := by
  -- Either way the argument is an application itself, and the shapes have a name there.
  obtain ⟨name, argument, text, happlied, hinner⟩ : ∃ name argument text,
      type.IsApplied name argument ∧ argument.IsApplied "Option" text := by
    cases h with
    | optional outer inner => exact ⟨_, _, _, outer, inner⟩
    | strings outer inner => exact ⟨_, _, _, outer, inner⟩
  intro hdefault
  cases hdefault with
  | plain named => exact named.not_isApplied happlied
  | optional applied named | optionalString applied named | strings applied named =>
    rw [(applied.unique happlied).2] at named
    exact named.not_isApplied hinner

theorem fieldType?_eq_some_iff {type : TypeExpr} {fieldType : FieldType} :
    type.fieldType? = some fieldType ↔ type.HasDefault fieldType ∨ type.Overnested fieldType := by
  constructor
  · intro h
    obtain ⟨name, hnamed, hknown⟩ | ⟨argument, inner, happlied, hinner, houter⟩ |
      ⟨argument, inner, happlied, hinner, houter⟩ := fieldType?_cases h
    · exact .inl (.plain hnamed hknown)
    · obtain ⟨p, rfl, rfl⟩ | ⟨rfl, rfl⟩ := optionalType?_eq_some_iff.mp houter
      · obtain ⟨name, hnamed, hscalar⟩ := exists_isNamed_of_primitive hinner
        exact .inl (.optional happlied hnamed hscalar)
      · cases isText_of_fieldType? hinner with
        | string named => exact .inl (.optionalString happlied named)
        | optional applied text => exact .inr (.optional happlied applied text)
    · obtain ⟨rfl, rfl⟩ := listType?_eq_some_iff.mp houter
      cases isText_of_fieldType? hinner with
      | string named => exact .inl (.strings happlied named)
      | optional applied text => exact .inr (.strings happlied applied text)
  · rintro (hdefault | hnested)
    · exact hdefault.fieldType?
    · exact hnested.fieldType?

end TypeExpr

/-- A member that is not skipped and whose type is not marked. -/
structure Member.Unmarked (m : Member) : Prop where
  java : m.mark? "java" = none
  enumeration : m.mark? "enumeration" = none
  kept : ¬ m.isSkipped

/-- Nothing is found at fault in a declaration up to the type of `m`. -/
inductive Reaches (r : AttributeReader) (d : Declaration) (m : Member) : Prop where
  | intro {before after : List Member} {container : ContainerMarks} {fields : List (Option Field)}
      {marks : MemberMarks} (shape : d.shape = .named (before ++ m :: after))
      (container : ContainerMarks.read r d.attributes = .ok container)
      (fields : before.mapM (Member.field r) = .ok fields)
      (marks : MemberMarks.read r m.attributes = .ok marks) : Reaches r d m

variable {r : AttributeReader}

/-- The type of an unmarked member's field is the default of its own type. -/
theorem Member.Unmarked.fieldType?_eq {m : Member} {f : Field} (hm : m.Unmarked)
    (h : m.Describes f) : m.type.fieldType? = some f.type := by
  have htype := h.type
  generalize f.type = type at htype
  cases htype with
  | java marked => cases hm.java.symm.trans marked
  | enumeration marked => cases hm.enumeration.symm.trans marked
  | default _ _ stands => exact stands

theorem Member.Unmarked.field_eq_error (hr : r.Lawful) {m : Member} {marks : MemberMarks}
    (hm : m.Unmarked) (hmarks : MemberMarks.read r m.attributes = .ok marks)
    (h : m.type.fieldType? = none) : m.field r = .error .noDefaultType := by
  obtain ⟨hafter, -⟩ := MemberMarks.read_eq_ok hr hmarks
  have hskip : ¬ marks.skip := by
    intro hskip
    obtain hfalse | ⟨a, hmem, hkey⟩ := hafter.skip.mp hskip
    · cases hfalse
    · exact hm.kept (List.any_eq_true.mpr ⟨a, hmem, beq_iff_eq.mpr hkey⟩)
  have hjava : marks.java = none := by rw [hafter.java, Option.or_none]; exact hm.java
  have henumeration : marks.enumeration = none := by
    rw [hafter.enumeration, Option.or_none]
    exact hm.enumeration
  have htype : marks.fieldType m.type = .error .noDefaultType := by
    rw [MemberMarks.fieldType, hjava, henumeration, h]
  rw [field, hmarks]
  change (if marks.skip then _ else _) = _
  rw [if_neg hskip, htype]
  rfl

/-- The first member without a type is what a declaration is refused for. -/
theorem Reaches.template_eq_error (hr : r.Lawful) {d : Declaration} {m : Member}
    (h : Reaches r d m) (hm : m.Unmarked) (hnone : m.type.fieldType? = none) :
    d.template r = .error .noDefaultType := by
  obtain ⟨hshape, hcontainer, hfields, hmarks⟩ := h
  rw [template, members_eq_ok_iff.mpr hshape, hcontainer]
  simp only [List.mapM_append, List.mapM_cons, hfields, hm.field_eq_error hr hmarks hnone, bind,
    Except.bind]

/-- In a declaration that describes a template every unmarked member has a type with a default. -/
theorem Member.Unmarked.exists_fieldType?_eq (hr : r.Lawful) {d : Declaration} {t : Template}
    {m : Member} {members : List Member} (hm : m.Unmarked) (ht : d.template r = .ok t)
    (hshape : d.shape = .named members) (hmem : m ∈ members) :
    ∃ fieldType, m.type.fieldType? = some fieldType := by
  obtain ⟨⟨members', hshape', hfields⟩, -, -⟩ := template_described hr ht
  cases hshape.symm.trans hshape'
  have hkept : m ∈ members.filter (!·.isSkipped) :=
    List.mem_filter.mpr ⟨hmem, by simpa using hm.kept⟩
  obtain ⟨i, hi, rfl⟩ := List.getElem_of_mem hkept
  exact ⟨_, hm.fieldType?_eq (hfields.get hi (hfields.length_eq ▸ hi))⟩

/-- Which types have a default: those of the shapes that are meant to, and a string that is
optional twice or more, alone or in a list. A declaration with an unmarked member of another type
is refused, and for that member if it is the first at fault. -/
theorem defaultType_shapes (type : TypeExpr) :
    (∀ fieldType, type.fieldType? = some fieldType ↔
      type.HasDefault fieldType ∨ type.Overnested fieldType) ∧
      (∀ fieldType fieldType', type.Overnested fieldType → ¬ type.HasDefault fieldType') ∧
      ((∀ fieldType, ¬ type.HasDefault fieldType ∧ ¬ type.Overnested fieldType) →
        ∀ (r : AttributeReader) (d : Declaration) (members : List Member) (m : Member),
          r.Lawful → d.shape = .named members → m ∈ members → m.Unmarked → m.type = type →
          (∀ t, d.template r ≠ .ok t) ∧
            (Reaches r d m → d.template r = .error .noDefaultType)) := by
  refine ⟨fun fieldType => TypeExpr.fieldType?_eq_some_iff,
    fun fieldType fieldType' hnested => hnested.not_hasDefault, ?_⟩
  intro hshapes r d members m hr hshape hmem hm htype
  have hnone : m.type.fieldType? = none := by
    rw [htype, Option.eq_none_iff_forall_ne_some]
    intro fieldType hsome
    obtain hdefault | hnested := TypeExpr.fieldType?_eq_some_iff.mp hsome
    · exact (hshapes fieldType).1 hdefault
    · exact (hshapes fieldType).2 hnested
  constructor
  · intro t ht
    obtain ⟨fieldType, hsome⟩ := hm.exists_fieldType?_eq hr ht hshape hmem
    cases hnone.symm.trans hsome
  · intro hreaches
    exact hreaches.template_eq_error hr hm hnone

/-- A struct with one member, which has no marks. -/
def profile (type : TypeExpr) : Declaration where
  name := "Profile"
  attributes := []
  shape := .named [⟨"name", type, []⟩]

def optionalStrings : TypeExpr := .applied "Option" (.applied "Vec" (.named "String"))

/-- An optional list of strings has no default. -/
theorem defaultType_shapes_optionalStrings :
    (∀ fieldType, ¬ optionalStrings.HasDefault fieldType ∧
      ¬ optionalStrings.Overnested fieldType) ∧
      (profile optionalStrings).template .standard = .error .noDefaultType := by
  have hnone : optionalStrings.fieldType? = none := by decide +kernel
  have hshapes : ∀ fieldType,
      ¬ optionalStrings.HasDefault fieldType ∧ ¬ optionalStrings.Overnested fieldType := by
    intro fieldType
    constructor
    · intro hdefault
      cases hnone.symm.trans hdefault.fieldType?
    · intro hnested
      cases hnone.symm.trans hnested.fieldType?
  have hreaches : Reaches .standard (profile optionalStrings) ⟨"name", optionalStrings, []⟩ :=
    @Reaches.intro _ _ _ [] [] _ _ _ rfl rfl rfl rfl
  have hunmarked : Member.Unmarked ⟨"name", optionalStrings, []⟩ := ⟨rfl, rfl, by decide⟩
  obtain ⟨-, -, hrefused⟩ := defaultType_shapes optionalStrings
  have hreason := (hrefused hshapes _ (profile optionalStrings) _ _
    AttributeReader.standard_lawful rfl (List.mem_singleton.mpr rfl) hunmarked rfl).2
  exact ⟨hshapes, hreason hreaches⟩

def twiceOptionalString : TypeExpr := .applied "Option" (.applied "Option" (.named "String"))

def listOfOptionalStrings : TypeExpr := .applied "Vec" (.applied "Option" (.named "String"))

/-- A string that is optional twice, and a list of optional strings, are accepted. -/
theorem template_overnested :
    ((∀ fieldType, ¬ twiceOptionalString.HasDefault fieldType) ∧
      (profile twiceOptionalString).template .standard =
        .ok ⟨[], "Profile", [⟨"name", .string, none⟩]⟩) ∧
      (∀ fieldType, ¬ listOfOptionalStrings.HasDefault fieldType) ∧
      (profile listOfOptionalStrings).template .standard =
        .ok ⟨[], "Profile", [⟨"name", .array "java.lang.String", none⟩]⟩ := by
  have hstring : (TypeExpr.named "String").IsText := .string (.intro false [])
  have htwice : twiceOptionalString.Overnested .string :=
    .optional (.intro false [] _) (.intro false [] _) hstring
  have hlist : listOfOptionalStrings.Overnested (.array "java.lang.String") :=
    .strings (.intro false [] _) (.intro false [] _) hstring
  exact ⟨⟨fun _ => htwice.not_hasDefault, by decide +kernel⟩,
    fun _ => hlist.not_hasDefault, by decide +kernel⟩

end TupleRecord.Declaration
