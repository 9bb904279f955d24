import Mathlib.Data.List.Infix
import TupleRecord.Text.Lines

/-!
What the pieces of a text are. Splitting gives contiguous parts that lack the separator, and
loses no other character; a text that ends at the first character of some class can be told from
what follows it.
-/
namespace TupleRecord.Text

variable {sep : Char → Bool}

theorem dropStart?_eq_none_of_notMem {start text : Text} {c : Char} (hstart : c ∈ start)
    (htext : c ∉ text) : dropStart? start text = none := by
  cases h : dropStart? start text with
  | none => rfl
  | some rest =>
    rw [dropStart?_eq_some_iff] at h
    exact absurd (h ▸ List.mem_append_left _ hstart) htext

theorem splitBy_cons_of_sep {c : Char} (h : sep c) (text : Text) :
    splitBy sep (c :: text) = [] :: splitBy sep text := by
  simp [splitBy, h]

theorem splitBy_cons_of_not_sep {c : Char} (h : sep c = false) (text : Text) :
    ∃ piece pieces, splitBy sep text = piece :: pieces ∧
      splitBy sep (c :: text) = (c :: piece) :: pieces := by
  cases hsplit : splitBy sep text with
  | nil => exact absurd hsplit (splitBy_ne_nil sep text)
  | cons piece pieces => exact ⟨piece, pieces, rfl, by simp [splitBy, h, hsplit]⟩

/-- A separator ends a piece, whatever stands on its two sides. -/
theorem splitBy_append_cons {c : Char} (h : sep c) (a b : Text) :
    splitBy sep (a ++ c :: b) = splitBy sep a ++ splitBy sep b := by
  induction a with
  | nil => simp [splitBy_cons_of_sep h, splitBy]
  | cons d a ih =>
    cases hd : sep d with
    | true => simp [splitBy_cons_of_sep hd, ih]
    | false =>
      obtain ⟨piece, pieces, ha, hda⟩ := splitBy_cons_of_not_sep hd a
      rw [hda, List.cons_append, splitBy]
      simp [hd, ih, ha]

theorem splitBy_of_forall_not_sep {text : Text} (h : ∀ c ∈ text, sep c = false) :
    splitBy sep text = [text] := by
  induction text with
  | nil => rfl
  | cons c text ih =>
    have hc := h c (by simp)
    have htext := ih (fun d hd => h d (List.mem_cons_of_mem _ hd))
    simp [splitBy, hc, htext]

theorem split_append_cons (sep : Char) (a b : Text) :
    split sep (a ++ sep :: b) = split sep a ++ split sep b :=
  @splitBy_append_cons (· == sep) sep (beq_self_eq_true sep) a b

theorem split_of_notMem {sep : Char} {text : Text} (h : sep ∉ text) : split sep text = [text] := by
  apply splitBy_of_forall_not_sep
  intro c hc
  rw [beq_eq_false_iff_ne]
  rintro rfl
  exact h hc

/-- No piece has a separator. -/
theorem not_sep_of_mem_splitBy {text piece : Text} (h : piece ∈ splitBy sep text) :
    ∀ c ∈ piece, sep c = false := by
  induction text generalizing piece with
  | nil =>
    rw [splitBy, List.mem_singleton] at h
    simp [h]
  | cons d text ih =>
    cases hd : sep d with
    | true =>
      rw [splitBy_cons_of_sep hd] at h
      rcases List.mem_cons.mp h with rfl | h
      · simp
      · exact ih h
    | false =>
      obtain ⟨first, pieces, htext, hdtext⟩ := splitBy_cons_of_not_sep hd text
      rw [hdtext] at h
      rw [htext] at ih
      rcases List.mem_cons.mp h with rfl | h
      · rw [List.forall_mem_cons]
        exact ⟨hd, ih List.mem_cons_self⟩
      · exact ih (List.mem_cons_of_mem _ h)

theorem notMem_of_mem_split {sep : Char} {text piece : Text} (h : piece ∈ split sep text) :
    sep ∉ piece := by
  intro hmem
  have hsep := not_sep_of_mem_splitBy h sep hmem
  simp at hsep

/-- The separators that splitting drops can be put back. -/
theorem intercalate_split (sep : Char) (text : Text) :
    List.intercalate [sep] (split sep text) = text := by
  induction text with
  | nil => rfl
  | cons c text ih =>
    rw [split] at ih ⊢
    cases hc : c == sep with
    | true =>
      obtain rfl : c = sep := by simpa using hc
      rw [@splitBy_cons_of_sep (· == c) c hc text]
      cases hsplit : splitBy (· == c) text with
      | nil => exact absurd hsplit (splitBy_ne_nil _ text)
      | cons piece pieces =>
        rw [hsplit] at ih
        rw [List.intercalate_cons_cons, ih]
        rfl
    | false =>
      obtain ⟨piece, pieces, htext, hcons⟩ := @splitBy_cons_of_not_sep (· == sep) c hc text
      rw [htext] at ih
      rw [hcons]
      cases pieces with
      | nil =>
        rw [List.intercalate_singleton] at ih ⊢
        rw [ih]
      | cons next pieces =>
        rw [List.intercalate_cons_cons] at ih ⊢
        rw [← ih]
        rfl

theorem split_injective (sep : Char) : Function.Injective (split sep) := by
  intro a b h
  rw [← intercalate_split sep a, h, intercalate_split]

/-- A separator stands before every part but the first. -/
theorem intercalate_cons_eq {α : Type} (separator first : List α) (rest : List (List α)) :
    List.intercalate separator (first :: rest) =
      first ++ rest.flatMap fun part => separator ++ part := by
  induction rest generalizing first with
  | nil => simp
  | cons next rest ih =>
    rw [List.intercalate_cons_cons, ih, List.flatMap_cons, List.append_assoc, List.append_assoc]

/-- Pieces without the separator are found again between the separators that join them. -/
theorem split_intercalate {sep : Char} {pieces : List Text} (hne : pieces ≠ [])
    (h : ∀ piece ∈ pieces, sep ∉ piece) : split sep (List.intercalate [sep] pieces) = pieces := by
  induction pieces with
  | nil => exact absurd rfl hne
  | cons piece pieces ih =>
    rw [List.forall_mem_cons] at h
    cases pieces with
    | nil => rw [List.intercalate_singleton, split_of_notMem h.1]
    | cons next pieces =>
      rw [List.intercalate_cons_cons, List.append_assoc, List.singleton_append, split_append_cons,
        split_of_notMem h.1, ih (List.cons_ne_nil next pieces) h.2, List.singleton_append]

/-- Separators that a renaming of characters makes equal separate the same pieces, which the
renaming leaves alone. -/
theorem splitBy_map {sep' : Char → Bool} (f : Char → Char) (hsep : ∀ c, sep' (f c) = sep c)
    (hf : ∀ c, sep c = false → f c = c) (text : Text) :
    splitBy sep' (text.map f) = splitBy sep text := by
  induction text with
  | nil => rfl
  | cons c text ih =>
    cases hc : sep c with
    | true => simp [splitBy, hsep, hc, ih]
    | false => simp [splitBy, hf c hc ▸ hsep c, hc, hf c hc, ih]

/-- Splitting drops nothing but separators. -/
theorem mem_splitBy_of_mem {text : Text} {c : Char} (h : c ∈ text) (hc : sep c = false) :
    ∃ piece ∈ splitBy sep text, c ∈ piece := by
  induction text with
  | nil => simp at h
  | cons d text ih =>
    cases hd : sep d with
    | true =>
      rcases List.mem_cons.mp h with rfl | h
      · simp [hd] at hc
      · obtain ⟨piece, hpiece, hmem⟩ := ih h
        exact ⟨piece, by rw [splitBy_cons_of_sep hd]; exact List.mem_cons_of_mem _ hpiece, hmem⟩
    | false =>
      obtain ⟨first, pieces, htext, hdtext⟩ := splitBy_cons_of_not_sep hd text
      rw [hdtext]
      rcases List.mem_cons.mp h with rfl | h
      · exact ⟨_, List.mem_cons_self, List.mem_cons_self⟩
      · obtain ⟨piece, hpiece, hmem⟩ := ih h
        rw [htext] at hpiece
        rcases List.mem_cons.mp hpiece with rfl | hpiece
        · exact ⟨_, List.mem_cons_self, List.mem_cons_of_mem _ hmem⟩
        · exact ⟨piece, List.mem_cons_of_mem _ hpiece, hmem⟩

/-- The first piece is a start of the text, and every piece is a contiguous part of it. -/
theorem splitBy_isInfix (text : Text) :
    (∀ piece ∈ (splitBy sep text).head?, piece <+: text) ∧
      ∀ piece ∈ splitBy sep text, piece <:+: text := by
  induction text with
  | nil => simp [splitBy]
  | cons c text ih =>
    cases hc : sep c with
    | true =>
      rw [splitBy_cons_of_sep hc]
      refine ⟨by simp, ?_⟩
      intro piece hpiece
      rcases List.mem_cons.mp hpiece with rfl | hpiece
      · exact List.nil_infix
      · exact (ih.2 piece hpiece).trans (List.suffix_cons c text).isInfix
    | false =>
      obtain ⟨first, pieces, htext, hctext⟩ := splitBy_cons_of_not_sep hc text
      rw [htext] at ih
      have hfirst : c :: first <+: c :: text :=
        (List.prefix_cons_inj c).mpr (ih.1 first (by simp))
      rw [hctext]
      refine ⟨by simpa using hfirst, ?_⟩
      intro piece hpiece
      rcases List.mem_cons.mp hpiece with rfl | hpiece
      · exact hfirst.isInfix
      · exact (ih.2 piece (List.mem_cons_of_mem _ hpiece)).trans
          (List.suffix_cons c text).isInfix

theorem dropReturn_isPrefix (line : Text) : dropReturn line <+: line := by
  unfold dropReturn
  cases h : dropEnd? ['\r'] line with
  | none => exact List.prefix_rfl
  | some rest => exact ⟨['\r'], (dropEnd?_eq_some_iff.mp h).symm⟩

theorem trimEnd_isPrefix (text : Text) : trimEnd text <+: text := by
  obtain ⟨rest, hrest⟩ := List.dropWhile_suffix (l := text.reverse) Unicode.isWhiteSpace
  exact ⟨rest.reverse, by rw [trimEnd, ← List.reverse_append, hrest, List.reverse_reverse]⟩

theorem trimEnd_append_singleton {c : Char} (h : Unicode.isWhiteSpace c) (text : Text) :
    trimEnd (text ++ [c]) = trimEnd text := by
  rw [trimEnd, List.reverse_append, List.reverse_singleton, List.singleton_append,
    List.dropWhile_cons_of_pos h, trimEnd]

/-- The carriage return of a line break is a blank. -/
theorem trimEnd_dropReturn (line : Text) : trimEnd (dropReturn line) = trimEnd line := by
  unfold dropReturn
  cases h : dropEnd? ['\r'] line with
  | none => rfl
  | some rest =>
    rw [dropEnd?_eq_some_iff] at h
    rw [h, trimEnd_append_singleton (by decide)]
    rfl

/-- A text without blanks has none to trim. -/
theorem trim_eq_self {text : Text} (h : ∀ c ∈ text, Unicode.isWhiteSpace c = false) :
    trim text = text := by
  have hkeep : ∀ {text : Text}, (∀ c ∈ text, Unicode.isWhiteSpace c = false) →
      text.dropWhile Unicode.isWhiteSpace = text := by
    intro text htext
    cases text with
    | nil => rfl
    | cons c rest => rw [List.dropWhile_cons_of_neg (by simp [htext c List.mem_cons_self])]
  have hreverse : ∀ c ∈ text.reverse, Unicode.isWhiteSpace c = false := by simpa using h
  rw [trim, trimStart, hkeep h, trimEnd, hkeep hreverse, List.reverse_reverse]

theorem mem_split_of_mem_lines {text line : Text} (h : line ∈ lines text) :
    ∃ piece ∈ split '\n' text, line <+: piece := by
  simp only [lines, List.mem_append, List.mem_map, Option.mem_toList,
    Option.filter_eq_some_iff] at h
  rcases h with ⟨piece, hpiece, rfl⟩ | ⟨hlast, -⟩
  · exact ⟨piece, List.mem_of_mem_dropLast hpiece, dropReturn_isPrefix piece⟩
  · exact ⟨line, List.mem_of_getLast? hlast, List.prefix_rfl⟩

theorem lines_eq_nil_iff {text : Text} : lines text = [] ↔ text = [] := by
  constructor
  · intro h
    rw [← intercalate_split '\n' text]
    unfold lines at h
    cases hsplit : split '\n' text with
    | nil => exact absurd hsplit (splitBy_ne_nil _ text)
    | cons piece pieces =>
      rw [hsplit] at h
      cases pieces with
      | nil => simpa [Option.filter] using h
      | cons next pieces => simp at h
  · rintro rfl
    rfl

theorem newline_notMem_of_mem_lines {text line : Text} (h : line ∈ lines text) : '\n' ∉ line := by
  obtain ⟨piece, hpiece, hline⟩ := mem_split_of_mem_lines h
  exact fun hmem => notMem_of_mem_split hpiece (hline.subset hmem)

/-- The text of some lines, each with its line feed. -/
def unlines (lines : List Text) : Text := lines.flatMap (· ++ ['\n'])

@[simp] theorem unlines_nil : unlines [] = [] := rfl

@[simp] theorem unlines_cons (line : Text) (lines : List Text) :
    unlines (line :: lines) = line ++ '\n' :: unlines lines := by
  simp [unlines]

/-- The lines that a text begins with are its first pieces between line feeds. -/
theorem split_unlines {lines : List Text} (h : ∀ line ∈ lines, '\n' ∉ line) (rest : Text) :
    split '\n' (unlines lines ++ rest) = lines ++ split '\n' rest := by
  induction lines with
  | nil => rfl
  | cons line lines ih =>
    rw [List.forall_mem_cons] at h
    rw [unlines_cons, List.append_assoc, List.cons_append, split_append_cons, split_of_notMem h.1,
      ih h.2, List.singleton_append, List.cons_append]

theorem isInfix_of_mem_lines {text line : Text} (h : line ∈ lines text) : line <:+: text := by
  obtain ⟨piece, hpiece, hline⟩ := mem_split_of_mem_lines h
  exact hline.isInfix.trans ((splitBy_isInfix text).2 piece hpiece)

theorem afterLast_isSuffix (sep : Char) (text : Text) : afterLast sep text <:+ text := by
  obtain ⟨rest, hrest⟩ := List.takeWhile_prefix (l := text.reverse) (· != sep)
  refine ⟨rest.reverse, ?_⟩
  rw [afterLast, ← List.reverse_append, hrest, List.reverse_reverse]

/-- A text up to a character that it lacks, and from there on. -/
theorem takeWhile_append_cons {stop : Char} {a : Text} (h : stop ∉ a) (b : Text) :
    (a ++ stop :: b).takeWhile (· != stop) = a ∧
      (a ++ stop :: b).dropWhile (· != stop) = stop :: b := by
  have ha : ∀ c ∈ a, (c != stop) = true := by
    intro c hc
    rw [bne_iff_ne]
    rintro rfl
    exact h hc
  rw [List.takeWhile_append_of_pos ha, List.dropWhile_append_of_pos ha]
  simp

theorem all_mono {p q : Char → Bool} {text : Text} (h : text.all p) (hpq : ∀ c, p c → q c) :
    text.all q := by
  rw [List.all_eq_true] at h ⊢
  exact fun c hc => hpq c (h c hc)

theorem notMem_of_all {p : Char → Bool} {text : Text} {c : Char} (h : text.all p)
    (hc : p c = false) : c ∉ text := by
  intro hmem
  rw [List.all_eq_true.mp h c hmem] at hc
  cases hc

/-- What holds of all characters of some texts and of what separates them holds of the whole. -/
theorem all_intercalate {p : Char → Bool} {separator : Text} (hseparator : separator.all p)
    {texts : List Text} (h : ∀ text ∈ texts, text.all p) :
    (List.intercalate separator texts).all p := by
  induction texts with
  | nil => rfl
  | cons text texts ih =>
    rw [List.forall_mem_cons] at h
    have hrest := ih h.2
    cases texts with
    | nil => rw [List.intercalate_singleton, h.1]
    | cons next texts =>
      rw [List.intercalate_cons_cons, List.all_append, List.all_append, h.1, hseparator, hrest]
      rfl

theorem notMem_intercalate {c : Char} {separator : Text} (hseparator : c ∉ separator)
    {texts : List Text} (h : ∀ text ∈ texts, c ∉ text) : c ∉ List.intercalate separator texts := by
  have hall {text : Text} (htext : c ∉ text) : text.all (· != c) := by
    rw [List.all_eq_true]
    intro d hd
    rw [bne_iff_ne]
    rintro rfl
    exact htext hd
  exact notMem_of_all (all_intercalate (hall hseparator) fun text htext => hall (h text htext))
    (by simp)

/-- Two texts that end where a character of the class `stop` first occurs are equal if the
whole texts are, and so is all that follows. -/
theorem append_cons_inj {stop : Char → Bool} {a a' b b' : Text} {c c' : Char}
    (ha : ∀ x ∈ a, stop x = false) (ha' : ∀ x ∈ a', stop x = false) (hc : stop c)
    (hc' : stop c') (h : a ++ c :: b = a' ++ c' :: b') : a = a' ∧ c = c' ∧ b = b' := by
  induction a generalizing a' with
  | nil =>
    cases a' with
    | nil => simpa using h
    | cons d a' =>
      obtain ⟨rfl, -⟩ := List.cons.inj h
      simp [hc] at ha'
  | cons d a ih =>
    cases a' with
    | nil =>
      obtain ⟨rfl, -⟩ := List.cons.inj h
      simp [hc'] at ha
    | cons d' a' =>
      obtain ⟨rfl, hrest⟩ := List.cons.inj h
      obtain ⟨rfl, hcb⟩ := ih (fun x hx => ha x (List.mem_cons_of_mem _ hx))
        (fun x hx => ha' x (List.mem_cons_of_mem _ hx)) hrest
      exact ⟨rfl, hcb⟩

end TupleRecord.Text
