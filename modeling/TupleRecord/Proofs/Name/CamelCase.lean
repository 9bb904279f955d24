import TupleRecord.Proofs.Name.Word

/-!
The words of a name. An identifier in snake case whose words are plain has them again in its
camel-case form, where capitals begin them, and in the constant of that, where separators do: the
two changes of style find the same boundaries, although they look for them in different ways.
-/
namespace TupleRecord.Name

/-- The small letters and the digits of ASCII. -/
def isSmallChar (c : Char) : Bool := c.isLower || c.isDigit

/-- A plain word: a small letter, and then small letters and digits. -/
inductive IsWord : Text → Prop where
  | intro {c : Char} {rest : Text} (first : c.isLower) (small : rest.all isSmallChar) :
      IsWord (c :: rest)

/-- The words of an identifier. Only the first can be a single letter: the capital of any other
would run together with the next. -/
structure AreWords (words : List Text) : Prop where
  ne_nil : words ≠ []
  word : ∀ word ∈ words, IsWord word
  long : ∀ word ∈ words.tail, 2 ≤ word.length

/-- The identifier of some words, behind `marks` markers. -/
def snakeCase (marks : Nat) (words : List Text) : Text :=
  List.replicate marks marker ++ List.intercalate ['_'] words

/-! ### Characters -/

theorem toNat_lt_of_isSmallChar {c : Char} (h : isSmallChar c) : c.toNat < 0x80 := by
  have hlower (hc : c.isLower) : c ≤ 'z' := of_decide_eq_true (Bool.and_eq_true_iff.mp hc).2
  have hdigit (hc : c.isDigit) : c ≤ '9' := of_decide_eq_true (Bool.and_eq_true_iff.mp hc).2
  rw [isSmallChar, Bool.or_eq_true] at h
  rcases h with hc | hc
  · exact (Char.le_def.mp (hlower hc)).trans_lt (by decide)
  · exact (Char.le_def.mp (hdigit hc)).trans_lt (by decide)

theorem isSmallChar_of_isLower {c : Char} (h : c.isLower) : isSmallChar c := by
  simp [isSmallChar, h]

/-- A small letter or digit is no capital and has one character in upper case, from which it can
be told. -/
theorem smallChar_upper {c : Char} (h : isSmallChar c) :
    Unicode.isUppercase c = false ∧ Unicode.toUppercase c = [c.toUpper] ∧
      c.toUpper.toLower = c := by
  have hascii : ∀ n < 0x80, isSmallChar (Char.ofNat n) →
      (Char.ofNat n).isUpper = false ∧ (Char.ofNat n).toUpper.toLower = Char.ofNat n := by
    decide
  have hlt := toNat_lt_of_isSmallChar h
  have hseen := Unicode.seenAsAscii hlt
  obtain ⟨hupper, hlower⟩ := of_ascii (P := fun c => isSmallChar c →
    c.isUpper = false ∧ c.toUpper.toLower = c) hascii hlt h
  exact ⟨hseen.uppercase.trans hupper, hseen.upper, hlower⟩

/-- A small letter becomes a capital, which is the same in upper case. -/
theorem letter_upper {c : Char} (h : c.isLower) :
    Unicode.isUppercase c.toUpper ∧ Unicode.toUppercase c.toUpper = [c.toUpper] := by
  have hascii : ∀ n < 0x80, (Char.ofNat n).isLower →
      (Char.ofNat n).toUpper.toNat < 0x80 ∧ (Char.ofNat n).toUpper.isUpper ∧
        (Char.ofNat n).toUpper.toUpper = (Char.ofNat n).toUpper := by
    decide
  obtain ⟨hlt, hcapital, hupper⟩ := of_ascii (P := fun c => c.isLower →
    c.toUpper.toNat < 0x80 ∧ c.toUpper.isUpper ∧ c.toUpper.toUpper = c.toUpper) hascii
    (toNat_lt_of_isSmallChar (isSmallChar_of_isLower h)) h
  have hseen := Unicode.seenAsAscii hlt
  rw [hseen.uppercase, hseen.upper, hupper]
  exact ⟨hcapital, rfl⟩

/-- Behind a small letter or digit every capital begins a word. -/
theorem beginsWord_of_isSmallChar {p c : Char} (hp : isSmallChar p) (hc : Unicode.isUppercase c)
    (next : Option Char) : beginsWord (some p) c next := by
  have hseen := Unicode.seenAsAscii (toNat_lt_of_isSmallChar hp)
  have hbefore : Unicode.isLowercase p || Unicode.isNumeric p := by
    rw [hseen.lowercase, hseen.numeric]
    exact hp
  simp [beginsWord, hc, hbefore]

/-- What is no capital begins no word. -/
theorem beginsWord_of_not_isUppercase {c : Char} (hc : Unicode.isUppercase c = false)
    (previous next : Option Char) : beginsWord previous c next = false := by
  cases previous with
  | none => rfl
  | some p => simp [beginsWord, hc]

theorem separator_notMem_of_small {text : Text} (h : text.all isSmallChar) :
    '_' ∉ text ∧ '_' ∉ text.map Char.toUpper := by
  have hascii : ∀ n < 0x80, isSmallChar (Char.ofNat n) →
      Char.ofNat n ≠ '_' ∧ (Char.ofNat n).toUpper ≠ '_' := by
    decide
  have hchar {c : Char} (hc : c ∈ text) : c ≠ '_' ∧ c.toUpper ≠ '_' := by
    have hsmall := List.all_eq_true.mp h c hc
    exact of_ascii (P := fun c => isSmallChar c → c ≠ '_' ∧ c.toUpper ≠ '_') hascii
      (toNat_lt_of_isSmallChar hsmall) hsmall
  constructor
  · exact fun hmem => (hchar hmem).1 rfl
  · rw [List.mem_map]
    rintro ⟨c, hc, hupper⟩
    exact (hchar hc).2 hupper

/-! ### Words -/

namespace IsWord

variable {word : Text}

theorem small (h : IsWord word) : word.all isSmallChar := by
  cases h with
  | intro first small => rw [List.all_cons, isSmallChar_of_isLower first, small, Bool.and_self]

theorem ne_nil (h : IsWord word) : word ≠ [] := by
  cases h
  exact List.cons_ne_nil _ _

/-- A word gets a capital, which takes the place of its first letter. -/
theorem capitalize_eq (h : IsWord word) : capitalize word = word.modifyHead Char.toUpper := by
  cases h with
  | intro first small =>
    rw [capitalize, (smallChar_upper (isSmallChar_of_isLower first)).2.1]
    rfl

end IsWord

/-! ### Separators -/

/-- There is no separator in a run of small letters and digits, and what follows the run follows
one of them. -/
theorem upperSnake_small {text : Text} (hne : text ≠ []) (h : text.all isSmallChar) :
    ∃ last, isSmallChar last ∧ ∀ previous rest,
      upperSnake previous (text ++ rest) =
        text.map Char.toUpper ++ upperSnake (some last) rest := by
  induction text with
  | nil => exact absurd rfl hne
  | cons c text ih =>
    rw [List.all_cons, Bool.and_eq_true] at h
    obtain ⟨hcapital, hupper, -⟩ := smallChar_upper h.1
    have hstep (previous : Option Char) (rest : Text) :
        upperSnake previous (c :: rest) = c.toUpper :: upperSnake (some c) rest := by
      rw [upperSnake, beginsWord_of_not_isUppercase hcapital, hupper]
      rfl
    by_cases hempty : text = []
    · rw [hempty]
      exact ⟨c, h.1, hstep⟩
    · obtain ⟨last, hlast, htext⟩ := ih hempty h.2
      refine ⟨last, hlast, fun previous rest => ?_⟩
      rw [List.cons_append, hstep, htext]
      rfl

/-- A separator is put before each capitalized word that follows a small letter or digit, and
nowhere else. -/
theorem upperSnake_capitalized {words : List Text} (hwords : ∀ word ∈ words, IsWord word)
    (hlong : ∀ word ∈ words, 2 ≤ word.length) {p : Char} (hp : isSmallChar p) :
    upperSnake (some p) (words.flatMap capitalize) =
      words.flatMap fun word => '_' :: word.map Char.toUpper := by
  induction words generalizing p with
  | nil => rfl
  | cons word words ih =>
    rw [List.forall_mem_cons] at hwords hlong
    rw [List.flatMap_cons, List.flatMap_cons, hwords.1.capitalize_eq]
    obtain ⟨hword, hrest⟩ := hwords
    cases hword with
    | @intro c rest first small =>
      obtain ⟨hcapital, hupper⟩ := letter_upper first
      have hne : rest ≠ [] := by
        rintro rfl
        simp at hlong
      obtain ⟨last, hlast, htext⟩ := upperSnake_small hne small
      have hbegins : upperSnake (some p) (c.toUpper :: (rest ++ words.flatMap capitalize)) =
          '_' :: c.toUpper :: upperSnake (some c.toUpper) (rest ++ words.flatMap capitalize) := by
        rw [upperSnake, beginsWord_of_isSmallChar hp hcapital, hupper]
        rfl
      rw [List.modifyHead_cons, List.cons_append, hbegins, htext, ih hrest hlong.2 hlast]
      rfl

/-- The constant of joined words has them in upper case, with their separators back. -/
theorem upperSnake_joinWords {words : List Text} (h : AreWords words) :
    upperSnake none (joinWords words) =
      List.intercalate ['_'] (words.map fun word => word.map Char.toUpper) := by
  obtain ⟨hne, hword, hlong⟩ := h
  cases words with
  | nil => exact absurd rfl hne
  | cons word words =>
    rw [List.forall_mem_cons] at hword
    obtain ⟨last, hlast, htext⟩ := upperSnake_small hword.1.ne_nil hword.1.small
    rw [joinWords, htext, upperSnake_capitalized hword.2 hlong hlast, List.map_cons,
      Text.intercalate_cons_eq, List.flatMap_map]
    rfl

/-! ### Identifiers -/

theorem mem_snakeCase {words : List Text} (h : AreWords words) {marks : Nat} {c : Char}
    (hc : c ∈ snakeCase marks words) : c = '_' ∨ isSmallChar c := by
  have hword : ∀ word ∈ words, word.all fun c => c == '_' || isSmallChar c := by
    intro word hword
    exact Text.all_mono (h.word word hword).small fun c hc => by simp [hc]
  have hjoined := @Text.all_intercalate _ ['_'] (by decide) words hword
  rw [snakeCase, List.mem_append, List.mem_replicate] at hc
  rcases hc with ⟨-, rfl⟩ | hc
  · exact .inl rfl
  · simpa using List.all_eq_true.mp hjoined c hc

/-- The words of an identifier, which single or repeated underscores separate. -/
def snakeWords (identifier : Text) : List Text :=
  (Text.split '_' (bare identifier)).filter (· ≠ [])

/-- An identifier that is no raw one keeps its markers, and its words are joined. -/
theorem camelCase_eq {identifier : Text} (h : '#' ∉ identifier) :
    camelCase identifier =
      identifier.takeWhile (· == marker) ++ joinWords (snakeWords identifier) := by
  have hraw : Text.dropStart? "r#" identifier = none :=
    Text.dropStart?_eq_none_of_notMem (by decide) h
  unfold camelCase
  simp only [hraw, Option.getD_none]
  rfl

/-- Markers end where a text begins with anything else. -/
theorem markers_append {marks text : Text} (hmarks : ∀ c ∈ marks, (c == marker) = true)
    (h : text.head? ≠ some marker) :
    (marks ++ text).takeWhile (· == marker) = marks ∧ bare (marks ++ text) = text := by
  rw [bare, List.takeWhile_append_of_pos hmarks, List.dropWhile_append_of_pos hmarks]
  cases text with
  | nil => exact ⟨List.append_nil marks, rfl⟩
  | cons c rest =>
    have hc : c ≠ marker := fun hc => h (congrArg some hc)
    rw [List.takeWhile_cons_of_neg (by simp [hc]), List.dropWhile_cons_of_neg (by simp [hc]),
      List.append_nil]
    exact ⟨rfl, rfl⟩

theorem IsWord.head?_append_ne {word : Text} (h : IsWord word) (rest : Text) :
    (word ++ rest).head? ≠ some marker := by
  have hseparator := (separator_notMem_of_small h.small).1
  cases h with
  | @intro c tail _ _ =>
    intro hhead
    exact hseparator (Option.some.inj hhead ▸ List.mem_cons_self)

/-- The camel-case form of an identifier joins its words behind its markers. -/
theorem camelCase_snakeCase {words : List Text} (h : AreWords words) (marks : Nat) :
    camelCase (snakeCase marks words) = List.replicate marks marker ++ joinWords words ∧
      bare (camelCase (snakeCase marks words)) = joinWords words := by
  have hsharp : '#' ∉ snakeCase marks words := by
    intro hmem
    rcases mem_snakeCase h hmem with hmark | hsmall
    · cases hmark
    · cases hsmall
  have hsplit : Text.split '_' (List.intercalate ['_'] words) = words :=
    Text.split_intercalate h.ne_nil fun word hword =>
      (separator_notMem_of_small (h.word word hword).small).1
  have hfilter : words.filter (· ≠ []) = words := by
    rw [List.filter_eq_self]
    exact fun word hword => decide_eq_true (h.word word hword).ne_nil
  have hmarks : ∀ c ∈ List.replicate marks marker, (c == marker) = true := by
    intro c hc
    rw [List.eq_of_mem_replicate hc, beq_self_eq_true]
  obtain ⟨hne, hword, hlong⟩ := h
  cases words with
  | nil => exact absurd rfl hne
  | cons word words =>
    have hfirst := hword word List.mem_cons_self
    have hhead : (List.intercalate ['_'] (word :: words)).head? ≠ some marker := by
      rw [Text.intercalate_cons_eq]
      exact hfirst.head?_append_ne _
    obtain ⟨htake, hbare⟩ := markers_append hmarks hhead
    have hwords : snakeWords (snakeCase marks (word :: words)) = word :: words := by
      rw [snakeWords, snakeCase, hbare]
      exact (congrArg _ hsplit).trans hfilter
    have hcamel : camelCase (snakeCase marks (word :: words)) =
        List.replicate marks marker ++ joinWords (word :: words) := by
      rw [camelCase_eq hsharp, hwords, snakeCase, htake]
    rw [hcamel]
    exact ⟨rfl, (markers_append hmarks (hfirst.head?_append_ne _)).2⟩

theorem capitalize_joinWords {words : List Text} (h : AreWords words) :
    capitalize (joinWords words) = words.flatMap fun word => word.modifyHead Char.toUpper := by
  obtain ⟨hne, hword, -⟩ := h
  have hcapitalized : words.flatMap capitalize =
      words.flatMap fun word => word.modifyHead Char.toUpper := by
    rw [List.flatMap_def, List.flatMap_def,
      List.map_congr_left fun word hmem => (hword word hmem).capitalize_eq]
  cases words with
  | nil => exact absurd rfl hne
  | cons word words =>
    rw [← hcapitalized, List.flatMap_cons, joinWords]
    cases hword word List.mem_cons_self with
    | intro first small => rw [List.cons_append, capitalize, capitalize, List.append_assoc]

/-- The words in upper case, joined by separators, can be told apart and put back into lower
case. -/
theorem words_of_joined {words : List Text} (h : AreWords words) :
    (Text.split '_' (List.intercalate ['_'] (words.map fun word => word.map Char.toUpper))).map
      (fun word => word.map Char.toLower) = words := by
  have hsplit : Text.split '_'
      (List.intercalate ['_'] (words.map fun word => word.map Char.toUpper)) =
        words.map fun word => word.map Char.toUpper := by
    apply Text.split_intercalate
    · rw [ne_eq, List.map_eq_nil_iff]
      exact h.ne_nil
    · rw [List.forall_mem_map]
      exact fun word hword => (separator_notMem_of_small (h.word word hword).small).2
  rw [hsplit, List.map_map]
  conv_rhs => rw [← List.map_id words]
  apply List.map_congr_left
  intro word hword
  have hsmall := List.all_eq_true.mp (h.word word hword).small
  rw [Function.comp_apply, List.map_map, id]
  conv_rhs => rw [← List.map_id word]
  exact List.map_congr_left fun c hc => (smallChar_upper (hsmall c hc)).2.2

/-- The constant and the accessors of an identifier in camel case are put together from its words,
whatever its markers. The words can be told from the constant, so that identifiers of different
words have different constants. -/
theorem derived_camelCase {words : List Text} (h : AreWords words) (marks : Nat) :
    constant (bare (camelCase (snakeCase marks words))) =
        List.intercalate ['_'] (words.map fun word => word.map Char.toUpper) ++ "_FN" ∧
      (∀ verb, accessor verb (bare (camelCase (snakeCase marks words))) =
        verb ++ words.flatMap fun word => word.modifyHead Char.toUpper) ∧
      ∀ marks' words', AreWords words' →
        constant (bare (camelCase (snakeCase marks' words'))) =
          constant (bare (camelCase (snakeCase marks words))) → words' = words := by
  have hconstant {words : List Text} (h : AreWords words) (marks : Nat) :
      constant (bare (camelCase (snakeCase marks words))) =
        List.intercalate ['_'] (words.map fun word => word.map Char.toUpper) ++ "_FN" := by
    rw [(camelCase_snakeCase h marks).2, constant, upperSnake_joinWords h]
    rfl
  refine ⟨hconstant h marks, fun verb => ?_, fun marks' words' h' heq => ?_⟩
  · rw [(camelCase_snakeCase h marks).2, accessor, capitalize_joinWords h]
  · rw [hconstant h, hconstant h', List.append_cancel_right_eq] at heq
    rw [← words_of_joined h', heq, words_of_joined h]

/-- A first word of one letter, and words that end in digits. -/
theorem derived_camelCase_axis :
    AreWords ["x", "utf8", "id2"] ∧
      camelCase (snakeCase 2 ["x", "utf8", "id2"]) = "__xUtf8Id2" ∧
      constant (bare (camelCase (snakeCase 2 ["x", "utf8", "id2"]))) = "X_UTF8_ID2_FN" ∧
      accessor "get" (bare (camelCase (snakeCase 2 ["x", "utf8", "id2"]))) = "getXUtf8Id2" := by
  have hword : ∀ word ∈ (["x", "utf8", "id2"] : List Text), IsWord word := by
    simp only [List.forall_mem_cons]
    exact ⟨.intro rfl rfl, .intro rfl rfl, .intro rfl rfl, by simp⟩
  have h : AreWords ["x", "utf8", "id2"] := ⟨List.cons_ne_nil _ _, hword, by decide⟩
  obtain ⟨hconstant, haccessor, -⟩ := derived_camelCase h 2
  exact ⟨h, by decide +kernel, hconstant, haccessor "get"⟩

end TupleRecord.Name
