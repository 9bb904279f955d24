import TupleRecord.Proofs.Declaration.Arguments

/-!
What the marks of a member are. Reading folds over the arguments of all attributes and may stop at
any of them; if it does not, a mark is the last text that its key is given, and a member is skipped
if any argument says so. How the arguments are spread over attributes makes no difference.
-/
namespace TupleRecord.Declaration

/-- The text that an argument gives a key. -/
def Argument.textFor? (key : Text) (a : Argument) : Option Text :=
  match a.tokens with
  | [.key path, .equals, .text value] => if path = key then some value else none
  | _ => none

/-- The last text that a key is given. -/
def setting? (key : Text) (args : List Argument) : Option Text :=
  (args.filterMap (Argument.textFor? key)).getLast?

@[simp] theorem setting?_nil (key : Text) : setting? key [] = none := rfl

theorem setting?_cons (key : Text) (a : Argument) (args : List Argument) :
    setting? key (a :: args) = (setting? key args).or (a.textFor? key) := by
  unfold setting?
  cases h : a.textFor? key with
  | none => simp [h]
  | some value =>
    rw [List.filterMap_cons, h, List.getLast?_cons]
    cases (args.filterMap (Argument.textFor? key)).getLast? <;> rfl

@[simp] theorem setting?_singleton (key : Text) (a : Argument) :
    setting? key [a] = a.textFor? key := by
  simp [setting?_cons]

namespace MemberMarks

/-- The marks `m'` are `m` with some arguments applied. -/
structure After (m m' : MemberMarks) (args : List Argument) : Prop where
  java : m'.java = (setting? "java" args).or m.java
  enumeration : m'.enumeration = (setting? "enumeration" args).or m.enumeration
  rename : m'.rename = (setting? "rename" args).or m.rename
  skip : m'.skip ↔ m.skip ∨ ∃ a ∈ args, a.tokens = [.key "skip"]

theorem After.trans {m m' m'' : MemberMarks} {a : Argument} {args : List Argument}
    (h : After m m' [a]) (h' : After m' m'' args) : After m m'' (a :: args) where
  java := by rw [h'.java, h.java, setting?_singleton, setting?_cons, Option.or_assoc]
  enumeration := by
    rw [h'.enumeration, h.enumeration, setting?_singleton, setting?_cons, Option.or_assoc]
  rename := by rw [h'.rename, h.rename, setting?_singleton, setting?_cons, Option.or_assoc]
  skip := by
    rw [h'.skip, h.skip, List.exists_mem_cons_iff, or_assoc]
    simp

/-- Only `skip` is enough by itself. -/
theorem effect_eq_mark {m m' : MemberMarks} {key : Text} (h : effect m key = .ok (.mark m')) :
    key = "skip" ∧ m' = { m with skip := true } := by
  unfold effect at h
  split_ifs at h with hjava henumeration hrename hskip <;> cases h
  exact ⟨hskip, rfl⟩

theorem effect_eq_text {m : MemberMarks} {key : Text} {set : Text → MemberMarks}
    (h : effect m key = .ok (.text set)) :
    (key = "java" ∧ set = fun value => { m with java := some value }) ∨
      (key = "enumeration" ∧ set = fun value => { m with enumeration := some value }) ∨
        key = "rename" ∧ set = fun value => { m with rename := some value } := by
  unfold effect at h
  split_ifs at h with hjava henumeration hrename hskip <;> cases h
  · exact .inl ⟨hjava, rfl⟩
  · exact .inr (.inl ⟨henumeration, rfl⟩)
  · exact .inr (.inr ⟨hrename, rfl⟩)

section

variable {r : AttributeReader} {m m' : MemberMarks}

/-- One argument sets the mark of its key and leaves the others. -/
theorem after_of_read (hr : r.Lawful) {a : Argument}
    (h : r.read effect m (.arguments a.tokens) = .ok m') : After m m' [a] := by
  obtain ⟨key, htokens, heffect⟩ | ⟨key, value, set, htokens, heffect, rfl⟩ :=
    hr.read_argument_eq_ok effect h
  · obtain ⟨rfl, rfl⟩ := effect_eq_mark heffect
    constructor <;> simp [Argument.textFor?, htokens]
  · obtain ⟨rfl, rfl⟩ | ⟨rfl, rfl⟩ | ⟨rfl, rfl⟩ := effect_eq_text heffect <;>
      constructor <;> simp [Argument.textFor?, htokens]

/-- The marks that are read are those of all arguments together. -/
theorem after_of_foldlM (hr : r.Lawful) {args : List Argument}
    (h : args.foldlM (fun m a => r.read effect m (.arguments a.tokens)) m =
      .ok m') : After m m' args := by
  induction args generalizing m with
  | nil =>
    cases h
    constructor <;> simp
  | cons a args ih =>
    rw [List.foldlM_cons, Except.bind_eq_ok_iff] at h
    obtain ⟨m₁, ha, hrest⟩ := h
    exact (after_of_read hr ha).trans (ih hrest)

/-- The marks of a member that is read without an error. -/
theorem read_eq_ok (hr : r.Lawful) {attributes : List Attribute} (h : read r attributes = .ok m) :
    After {} m (argumentsOf attributes) ∧ (m.java = none ∨ m.enumeration = none) := by
  unfold read at h
  rw [Except.bind_eq_ok_iff] at h
  obtain ⟨marks, hmarks, hm⟩ := h
  by_cases htwo : marks.java.isSome && marks.enumeration.isSome
  · rw [if_pos htwo] at hm
    cases hm
  · rw [if_neg htwo] at hm
    cases hm
    refine ⟨after_of_foldlM hr (foldlM_argumentsOf effect hr hmarks), ?_⟩
    simpa [-not_and, Decidable.not_and_iff_or_not] using htwo

end

end MemberMarks
end TupleRecord.Declaration
