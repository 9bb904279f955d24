import TupleRecord.Proofs.Name.CamelCase
import TupleRecord.Proofs.Name.Separators

/-!
Camel case as a normal form. Whatever an identifier looks like, its camel-case form has no
underscore behind the markers, and camel case leaves such a name alone. The markers do not matter
for what stands behind them, and neither does the sign of a raw identifier. Nothing gets lost but
underscores: up to case the form has the characters of the identifier, in their order.
-/
namespace TupleRecord.Name

open Unicode

variable {identifier : Text} {words : List Text}

/-! ### Words -/

theorem head?_bare_ne (name : Text) : (bare name).head? ≠ some marker := by
  intro hhead
  have hnot := List.head?_dropWhile_not (· == marker) name
  rw [bare] at hhead
  rw [hhead] at hnot
  cases hnot

theorem mem_of_mem_snakeWords {word : Text} (h : word ∈ snakeWords identifier) :
    word <:+: identifier ∧ '_' ∉ word := by
  have hpiece : word ∈ Text.split '_' (bare identifier) := (List.mem_filter.mp h).1
  have hbare : bare identifier <:+ identifier := List.dropWhile_suffix _
  exact ⟨((Text.splitBy_isInfix _).2 word hpiece).trans hbare.isInfix,
    Text.notMem_of_mem_split hpiece⟩

/-- The words of an identifier have all of it but the underscores. -/
theorem folded_snakeWords (identifier : Text) :
    folded (snakeWords identifier).flatten = folded identifier := by
  have hflatten : (snakeWords identifier).flatten =
      (Text.split '_' (bare identifier)).flatten :=
    List.flatten_filter_ne_nil
  rw [hflatten, folded, ← filter_intercalate, Text.intercalate_split, ← folded, folded_bare]

/-- Words that begin with a capital are the same up to case. -/
theorem folded_capitalize (word : Text) : folded (capitalize word) = folded word := by
  cases word with
  | nil => rfl
  | cons c rest =>
    rw [capitalize, ← filter_upper, upper_append, upper_toUppercase, ← upper_cons, filter_upper]

theorem folded_joinWords (words : List Text) : folded (joinWords words) = folded words.flatten := by
  cases words with
  | nil => rfl
  | cons word words =>
    rw [joinWords, List.flatten_cons, folded_append, folded_append, List.append_cancel_left_eq]
    induction words with
    | nil => rfl
    | cons next words ih =>
      rw [List.flatMap_cons, List.flatten_cons, folded_append, folded_append, folded_capitalize, ih]

/-- A class of characters that is closed under upper case has all of some joined words if it has
all of the words. -/
theorem forall_mem_joinWords {p : Char → Prop} (hupper : ∀ c, p c → ∀ d ∈ toUppercase c, p d)
    (h : ∀ word ∈ words, ∀ c ∈ word, p c) : ∀ c ∈ joinWords words, p c := by
  have hcapitalize {word : Text} (hword : ∀ c ∈ word, p c) : ∀ c ∈ capitalize word, p c := by
    cases word with
    | nil => exact hword
    | cons first rest =>
      rw [List.forall_mem_cons] at hword
      rw [capitalize, List.forall_mem_append]
      exact ⟨hupper first hword.1, hword.2⟩
  cases words with
  | nil => exact fun c hc => absurd hc List.not_mem_nil
  | cons word words =>
    rw [List.forall_mem_cons] at h
    rw [joinWords, List.forall_mem_append]
    refine ⟨h.1, fun c hc => ?_⟩
    obtain ⟨next, hnext, hmem⟩ := List.mem_flatMap.mp hc
    exact hcapitalize (h.2 next hnext) c hmem

/-- Joining leaves no underscore between the words, nor does a capital bring one along. -/
theorem underscore_notMem_joinWords (identifier : Text) :
    '_' ∉ joinWords (snakeWords identifier) := by
  have hupper : ∀ c, c ≠ '_' → ∀ d ∈ toUppercase c, d ≠ '_' := by
    rintro c hc d hd rfl
    exact hc (eq_underscore_of_mem_toUppercase hd)
  have hwords : ∀ word ∈ snakeWords identifier, ∀ c ∈ word, c ≠ '_' := by
    rintro word hword c hc rfl
    exact (mem_of_mem_snakeWords hword).2 hc
  exact fun hmem => forall_mem_joinWords hupper hwords '_' hmem rfl

/-! ### Identifiers -/

/-- A class of characters that is closed under upper case and has all of an identifier has all of
its camel-case form. -/
theorem forall_mem_camelCase {p : Char → Prop} (hupper : ∀ c, p c → ∀ d ∈ toUppercase c, p d)
    (hsharp : '#' ∉ identifier) (h : ∀ c ∈ identifier, p c) : ∀ c ∈ camelCase identifier, p c := by
  rw [camelCase_eq hsharp, List.forall_mem_append]
  constructor
  · exact fun c hc => h c ((List.takeWhile_prefix _).subset hc)
  · exact forall_mem_joinWords hupper fun word hword c hc =>
      h c ((mem_of_mem_snakeWords hword).1.subset hc)

theorem sharp_notMem_camelCase (hsharp : '#' ∉ identifier) : '#' ∉ camelCase identifier := by
  have hupper : ∀ c, c ≠ '#' → ∀ d ∈ toUppercase c, d ≠ '#' := by
    rintro c hc d hd rfl
    exact hc (eq_of_mem_toUppercase hd (by decide)).symm
  have hidentifier : ∀ c ∈ identifier, c ≠ '#' := by
    rintro c hc rfl
    exact hsharp hc
  exact fun hmem => forall_mem_camelCase hupper hsharp hidentifier '#' hmem rfl

/-- Behind its markers the form is the joined words. -/
theorem bare_camelCase (hsharp : '#' ∉ identifier) :
    bare (camelCase identifier) = joinWords (snakeWords identifier) := by
  have hhead : (joinWords (snakeWords identifier)).head? ≠ some marker :=
    fun hhead => underscore_notMem_joinWords identifier (List.mem_of_mem_head? hhead)
  rw [camelCase_eq hsharp]
  exact (markers_append (List.all_eq_true.mp List.all_takeWhile) hhead).2

/-- The words of an identifier are the same without its markers. -/
theorem camelCase_bare (hsharp : '#' ∉ identifier) :
    camelCase (bare identifier) = joinWords (snakeWords identifier) := by
  have hbare : '#' ∉ bare identifier := fun hmem => hsharp ((List.dropWhile_suffix _).subset hmem)
  have hnone : ∀ c ∈ ([] : Text), (c == marker) = true := by simp
  obtain ⟨htake, hdrop⟩ := markers_append hnone (head?_bare_ne identifier)
  rw [List.nil_append] at htake hdrop
  rw [camelCase_eq hbare, htake, snakeWords, hdrop, ← snakeWords, List.nil_append]

/-- A name without underscores behind its markers is a single word, which is not capitalized. -/
theorem camelCase_eq_self {name : Text} (hsharp : '#' ∉ name) (hbare : '_' ∉ bare name) :
    camelCase name = name := by
  have hwords : joinWords (snakeWords name) = bare name := by
    rw [snakeWords, Text.split_of_notMem hbare]
    cases bare name with
    | nil => rfl
    | cons c rest => exact List.append_nil (c :: rest)
  rw [camelCase_eq hsharp, hwords, bare, List.takeWhile_append_dropWhile]

theorem camelCase_raw (hsharp : '#' ∉ identifier) :
    camelCase ("r#" ++ identifier) = camelCase identifier := by
  have hraw : Text.dropStart? "r#" ("r#" ++ identifier) = some identifier :=
    Text.dropStart?_eq_some_iff.mpr rfl
  have hplain : Text.dropStart? "r#" identifier = none :=
    Text.dropStart?_eq_none_of_notMem (by decide) hsharp
  unfold camelCase
  rw [hraw, hplain]
  rfl

theorem folded_camelCase (hsharp : '#' ∉ identifier) :
    folded (camelCase identifier) = folded identifier := by
  rw [← folded_bare, bare_camelCase hsharp, folded_joinWords, folded_snakeWords]

/-- In ASCII a name keeps its length in upper case. -/
theorem folded_of_ascii {name : Text} (h : ∀ c ∈ name, c.toNat < 0x80) :
    folded name = (name.filter (· != '_')).map Char.toUpper :=
  upper_of_ascii fun c hc => h c (List.mem_of_mem_filter hc)

/-- The camel-case form of an identifier is its markers and a body without underscores. It is its
own camel-case form and commutes with dropping the markers, and the sign of a raw identifier makes
no difference to it. Up to underscores and case it is the identifier, in ASCII letter by letter. -/
theorem camelCase_normalizes (hsharp : '#' ∉ identifier) :
    (∃ body, camelCase identifier = identifier.takeWhile (· == '_') ++ body ∧ '_' ∉ body) ∧
      camelCase (camelCase identifier) = camelCase identifier ∧
      bare (camelCase identifier) = camelCase (bare identifier) ∧
      camelCase ("r#" ++ identifier) = camelCase identifier ∧
      folded (camelCase identifier) = folded identifier ∧
      ((∀ c ∈ identifier, c.toNat < 0x80) →
        ((camelCase identifier).filter (· != '_')).map Char.toUpper =
          (identifier.filter (· != '_')).map Char.toUpper) := by
  refine ⟨⟨_, camelCase_eq hsharp, underscore_notMem_joinWords identifier⟩, ?_, ?_,
    camelCase_raw hsharp, folded_camelCase hsharp, fun hascii => ?_⟩
  · apply camelCase_eq_self (sharp_notMem_camelCase hsharp)
    rw [bare_camelCase hsharp]
    exact underscore_notMem_joinWords identifier
  · rw [bare_camelCase hsharp, camelCase_bare hsharp]
  · have hupper : ∀ c : Char, c.toNat < 0x80 → ∀ d ∈ toUppercase c, d.toNat < 0x80 := by
      intro c hc d hd
      rw [(seenAsAscii hc).upper, List.mem_singleton] at hd
      rw [hd]
      exact toNat_toUpper_lt hc
    have hform := forall_mem_camelCase hupper hsharp hascii
    rw [← folded_of_ascii hform, folded_camelCase hsharp, folded_of_ascii hascii]

/-- Doubled and trailing underscores, a word that begins with a digit and a raw identifier. -/
theorem camelCase_normalizes_ragged :
    '#' ∉ ("__user__ID_2nd_" : Text) ∧ camelCase "__user__ID_2nd_" = "__userID2nd" ∧
      camelCase (camelCase "__user__ID_2nd_") = "__userID2nd" ∧
      camelCase (bare "__user__ID_2nd_") = "userID2nd" ∧
      camelCase ("r#" ++ "__user__ID_2nd_") = "__userID2nd" ∧
      (("__userID2nd" : Text).filter (· != '_')).map Char.toUpper = "USERID2ND" := by
  have hsharp : '#' ∉ ("__user__ID_2nd_" : Text) := by decide +kernel
  have hform : camelCase "__user__ID_2nd_" = "__userID2nd" := by decide +kernel
  have hascii : ("__user__ID_2nd_" : Text).all fun c => c.toNat < 0x80 := by decide +kernel
  obtain ⟨-, hagain, hbare, hraw, -, hletters⟩ := camelCase_normalizes hsharp
  rw [hform] at hraw hbare hletters
  refine ⟨hsharp, hform, hagain.trans hform, hbare.symm.trans (by decide +kernel), hraw, ?_⟩
  exact (hletters (by simpa only [List.all_eq_true, decide_eq_true_eq] using hascii)).trans
    (by decide +kernel)

end TupleRecord.Name
