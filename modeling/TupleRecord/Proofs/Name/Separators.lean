import TupleRecord.Proofs.Name.UpperCase
import TupleRecord.Proofs.Text.Pieces

/-!
The separators of a constant. They cut a name into words, which the constant shows in upper case
and otherwise as they are: a constant is its name with separators inside, and they keep their
distance from its ends, from each other and from the underscores that the name brings along.
-/
namespace TupleRecord.Name

open Unicode

/-- The words of a name: the parts between the separators of its constant. -/
def words : Text → List Text
  | [] => []
  | [c] => [[c]]
  | c :: d :: rest =>
    if beginsWord (some c) d rest.head? then [c] :: words (d :: rest)
    else (words (d :: rest)).modifyHead (c :: ·)

/-- Holds of the two sides of a place between some words. -/
def IsCut (words : List Text) (before after : Text) : Prop :=
  ∃ first last, words = first ++ last ∧ first ≠ [] ∧ last ≠ [] ∧
    before = first.flatten ∧ after = last.flatten

/-- Words that make up a name and can have separators between them. -/
structure Separated (name : Text) (words : List Text) : Prop where
  flatten : words.flatten = name
  /-- A separator has a word on both sides. -/
  shown : ∀ word ∈ words, upper word ≠ []
  /-- No separator is next to an underscore of the name. -/
  apart : ∀ before after, IsCut words before after →
    (upper before).getLast? ≠ some '_' ∧ (upper after).head? ≠ some '_'
  /-- In ASCII a separator inside a run of capitals stands before its first letter, or before its
  last if a small letter follows. -/
  capitals : (∀ c ∈ name, c.toNat < 0x80) → ∀ start first last rest,
    (∀ c ∈ first ++ last, c.isUpper) → last ≠ [] → IsCut words (start ++ first) (last ++ rest) →
      first = [] ∨ last.length = 1 ∧ ∃ c ∈ rest.head?, c.isLower

/-- A name without its underscores, in upper case. -/
def folded (name : Text) : Text := upper (name.filter (· != '_'))

variable {name : Text}

theorem exists_words_cons (c : Char) (rest : Text) :
    ∃ word more, words (c :: rest) = word :: more := by
  induction rest generalizing c with
  | nil => exact ⟨[c], [], rfl⟩
  | cons d rest ih =>
    obtain ⟨word, more, hwords⟩ := ih d
    rw [words]
    split
    · exact ⟨_, _, rfl⟩
    · exact ⟨c :: word, more, by rw [hwords, List.modifyHead_cons]⟩

theorem flatten_words (name : Text) : (words name).flatten = name := by
  fun_induction words name with
  | case1 => rfl
  | case2 c => rfl
  | case3 c d rest begins ih => rw [List.flatten_cons, ih, List.singleton_append]
  | case4 c d rest begins ih =>
    obtain ⟨word, more, hwords⟩ := exists_words_cons d rest
    rw [hwords] at ih
    rw [hwords, List.modifyHead_cons, List.flatten_cons, List.cons_append, ← List.flatten_cons, ih]

theorem ne_nil_of_mem_words {word : Text} (h : word ∈ words name) : word ≠ [] := by
  fun_induction words name generalizing word with
  | case1 => cases h
  | case2 c =>
    rw [List.mem_singleton.mp h]
    exact List.cons_ne_nil _ _
  | case3 c d rest begins ih =>
    rcases List.mem_cons.mp h with rfl | h
    · exact List.cons_ne_nil _ _
    · exact ih h
  | case4 c d rest begins ih =>
    obtain ⟨first, more, hwords⟩ := exists_words_cons d rest
    rw [hwords, List.modifyHead_cons] at h
    rcases List.mem_cons.mp h with rfl | h
    · exact List.cons_ne_nil _ _
    · exact ih (by rw [hwords]; exact List.mem_cons_of_mem _ h)

/-- A constant shows the words in upper case, with the separators between them. -/
theorem upperSnake_eq_intercalate (previous : Option Char) (c : Char) (rest : Text) :
    upperSnake previous (c :: rest) =
      (if beginsWord previous c rest.head? then ['_'] else []) ++
        List.intercalate ['_'] ((words (c :: rest)).map upper) := by
  induction rest generalizing previous c with
  | nil => simp [upperSnake, words]
  | cons d rest ih =>
    obtain ⟨word, more, hwords⟩ := exists_words_cons d rest
    rw [upperSnake, ih, List.append_assoc, List.append_cancel_left_eq, words, hwords]
    split
    · rw [List.map_cons, List.map_cons, List.map_cons, List.intercalate_cons_cons, upper_cons,
        upper_nil, List.append_nil, List.append_assoc]
    · rw [List.nil_append, List.modifyHead_cons, List.map_cons, List.map_cons,
        Text.intercalate_cons_eq, Text.intercalate_cons_eq, upper_cons, List.append_assoc]

theorem constant_eq_intercalate (name : Text) :
    constant name = List.intercalate ['_'] ((words name).map upper) ++ constantEnding := by
  cases name with
  | nil => rfl
  | cons c rest => rw [constant, upperSnake_eq_intercalate, beginsWord]; rfl

/-- At each cut of a name into its words the next one begins. -/
theorem beginsWord_of_isCut {before after : Text} (h : IsCut (words name) before after) :
    ∃ start p c rest, before = start ++ [p] ∧ after = c :: rest ∧
      beginsWord (some p) c rest.head? := by
  obtain ⟨first, last, hwords, hfirst, hlast, rfl, rfl⟩ := h
  obtain ⟨word, first, rfl⟩ := List.exists_cons_of_ne_nil hfirst
  fun_induction words name generalizing word first with
  | case1 => cases hwords
  | case2 c =>
    obtain ⟨-, hrest⟩ := List.cons.inj hwords
    exact absurd (List.append_eq_nil_iff.mp hrest.symm).2 hlast
  | case3 c d rest begins ih =>
    obtain ⟨rfl, hrest⟩ := List.cons.inj hwords
    cases first with
    | nil =>
      have hlast : words (d :: rest) = last := hrest
      exact ⟨[], c, d, rest, rfl, by rw [← hlast, flatten_words], begins⟩
    | cons next first =>
      obtain ⟨start, p, e, rest', hbefore, hafter⟩ := ih next first hrest (List.cons_ne_nil _ _)
      exact ⟨c :: start, p, e, rest', by rw [List.flatten_cons, hbefore]; rfl, hafter⟩
  | case4 c d rest begins ih =>
    obtain ⟨head, more, hhead⟩ := exists_words_cons d rest
    rw [hhead, List.modifyHead_cons] at hwords
    obtain ⟨rfl, hrest⟩ := List.cons.inj hwords
    obtain ⟨start, p, e, rest', hbefore, hafter⟩ :=
      ih head first (by rw [hhead, hrest]; rfl) (List.cons_ne_nil _ _)
    refine ⟨c :: start, p, e, rest', ?_, hafter⟩
    rw [List.flatten_cons, List.cons_append, ← List.flatten_cons, hbefore, List.cons_append]

/-- The characters on the two sides of a place where a word begins are no underscores. -/
theorem ne_underscore_of_beginsWord {p c : Char} {next : Option Char}
    (h : beginsWord (some p) c next) : p ≠ '_' ∧ c ≠ '_' := by
  have hunderscore : isUppercase '_' = false ∧ isLowercase '_' = false ∧ isNumeric '_' = false := by
    decide
  obtain ⟨hupper, hlower, hnumeric⟩ := hunderscore
  constructor
  · rintro rfl
    simp [beginsWord, hupper, hlower, hnumeric] at h
  · rintro rfl
    simp [beginsWord, hupper] at h

theorem not_lowercase_of_isUpper {c : Char} (h : c.isUpper) :
    isLowercase c = false ∧ isNumeric c = false := by
  have htop : c ≤ 'Z' := (of_decide_eq_true h).2
  have hlt : c.toNat < 0x80 := (Char.le_def.mp htop).trans_lt (by decide)
  have hascii : ∀ n < 0x80, (Char.ofNat n).isUpper →
      (Char.ofNat n).isLower = false ∧ (Char.ofNat n).isDigit = false := by
    decide
  have hseen := seenAsAscii hlt
  rw [hseen.lowercase, hseen.numeric]
  exact of_ascii (P := fun c => c.isUpper → c.isLower = false ∧ c.isDigit = false) hascii hlt h

/-- Behind a capital of ASCII only the last capital of a run begins a word. -/
theorem isLowercase_of_beginsWord {p c : Char} {next : Option Char} (hp : p.isUpper)
    (h : beginsWord (some p) c next) : ∃ d ∈ next, isLowercase d := by
  obtain ⟨hlower, hnumeric⟩ := not_lowercase_of_isUpper hp
  simp only [beginsWord, hlower, hnumeric, Bool.false_or, Bool.and_eq_true] at h
  exact (Option.any_eq_true _ _).mp h.2.2

theorem flatten_of_isCut {words : List Text} {before after : Text} (h : IsCut words before after) :
    words.flatten = before ++ after := by
  obtain ⟨first, last, rfl, -, -, rfl, rfl⟩ := h
  exact List.flatten_append

/-- A cut in a run of capitals is before the first, or before the last and a small letter. -/
theorem capitals_of_isCut {start first last rest : Text} (hascii : ∀ c ∈ name, c.toNat < 0x80)
    (hrun : ∀ c ∈ first ++ last, c.isUpper) (hlast : last ≠ [])
    (hcut : IsCut (words name) (start ++ first) (last ++ rest)) :
    first = [] ∨ last.length = 1 ∧ ∃ c ∈ rest.head?, c.isLower := by
  have hname := (flatten_words name).symm.trans (flatten_of_isCut hcut)
  obtain ⟨start', p, c, rest', hbefore, hafter, hbegins⟩ := beginsWord_of_isCut hcut
  rcases List.eq_nil_or_concat' first with rfl | ⟨first', q, rfl⟩
  · exact .inl rfl
  rw [← List.append_assoc, List.append_singleton_inj] at hbefore
  obtain ⟨-, rfl⟩ := hbefore
  obtain ⟨d, hd, hlower⟩ := isLowercase_of_beginsWord (hrun q (by simp)) hbegins
  cases last with
  | nil => exact absurd rfl hlast
  | cons e last' =>
    obtain ⟨rfl, rfl⟩ := List.cons.inj hafter
    cases last' with
    | nil =>
      have hrest : d ∈ rest := List.mem_of_mem_head? hd
      rw [(seenAsAscii (hascii d (by simp [hname, hrest]))).lowercase] at hlower
      exact .inr ⟨rfl, d, hd, hlower⟩
    | cons e' last' =>
      -- The next character is a capital of the run.
      obtain rfl : e' = d := Option.some.inj hd
      have hnot := (not_lowercase_of_isUpper (hrun e' (by simp))).1
      rw [hlower] at hnot
      cases hnot

theorem separated_words (name : Text) : Separated name (words name) where
  flatten := flatten_words name
  shown word hword := upper_ne_nil (ne_nil_of_mem_words hword)
  apart before after hcut := by
    obtain ⟨start, p, c, rest, rfl, rfl, hbegins⟩ := beginsWord_of_isCut hcut
    obtain ⟨hp, hc⟩ := ne_underscore_of_beginsWord hbegins
    constructor
    · rw [upper_append, upper_cons, upper_nil, List.append_nil,
        List.getLast?_append_of_ne_nil _ (toUppercase_ne_nil p)]
      exact fun h => hp (eq_underscore_of_mem_toUppercase (List.mem_of_getLast? h))
    · rw [upper_cons, List.head?_append_of_ne_nil _ (toUppercase_ne_nil c)]
      exact fun h => hc (eq_underscore_of_mem_toUppercase (List.mem_of_mem_head? h))
  capitals hascii _ _ _ _ hrun hlast hcut := capitals_of_isCut hascii hrun hlast hcut

/-! ### What a constant is made of -/

theorem filter_upper (name : Text) : (upper name).filter (· != '_') = folded name := by
  unfold folded
  induction name with
  | nil => rfl
  | cons c name ih =>
    rw [upper_cons, List.filter_append, ih]
    by_cases hc : c = '_'
    · rw [hc, toUppercase_underscore]
      rfl
    · have hkept : (toUppercase c).filter (· != '_') = toUppercase c := by
        rw [List.filter_eq_self]
        intro d hd
        rw [bne_iff_ne]
        rintro rfl
        exact hc (eq_underscore_of_mem_toUppercase hd)
      rw [hkept, List.filter_cons_of_pos (by simpa using hc), upper_cons]

theorem filter_intercalate (texts : List Text) :
    (List.intercalate ['_'] texts).filter (· != '_') = texts.flatten.filter (· != '_') := by
  cases texts with
  | nil => rfl
  | cons text texts =>
    rw [Text.intercalate_cons_eq, List.flatten_cons, List.filter_append, List.filter_append]
    congr 1
    induction texts with
    | nil => rfl
    | cons next texts ih => rw [List.flatMap_cons, List.flatten_cons, List.filter_append, ih]; simp

theorem folded_append (a b : Text) : folded (a ++ b) = folded a ++ folded b := by
  rw [folded, List.filter_append, upper_append, folded, folded]

/-- Markers are underscores. -/
theorem folded_bare (name : Text) : folded (bare name) = folded name := by
  unfold folded bare
  induction name with
  | nil => rfl
  | cons c name ih =>
    by_cases hc : c = marker
    · rw [List.dropWhile_cons_of_pos (by simpa using hc), ih,
        List.filter_cons_of_neg (by simp [hc, marker])]
    · rw [List.dropWhile_cons_of_neg (by simpa using hc)]

/-- Names with one constant differ in underscores and case alone. -/
theorem folded_eq_of_constant_eq {a b : Text} (h : constant a = constant b) :
    folded a = folded b := by
  have hfolded (name : Text) :
      (List.intercalate ['_'] ((words name).map upper)).filter (· != '_') = folded name := by
    rw [filter_intercalate, ← upper_flatten, flatten_words, filter_upper]
  rw [constant_eq_intercalate, constant_eq_intercalate, List.append_cancel_right_eq] at h
  rw [← hfolded, h, hfolded]

end TupleRecord.Name
