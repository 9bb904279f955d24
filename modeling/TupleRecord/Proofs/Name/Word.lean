import TupleRecord.Name.Derived
import TupleRecord.Name.Identifier
import TupleRecord.Proofs.Text.Pieces

/-!
The characters that names are made of. Identifiers can have letters of every script, so a reader
of generated source tells a name from what surrounds it by the characters that no name has: the
punctuation, the blanks and the controls of ASCII. This class is closed under the change to
upper case, and so every name that is derived from an identifier stays inside it. Inside ASCII the
properties of Unicode are the character classes of the standard library.
-/
namespace TupleRecord

namespace Name

/-- Letters, digits, `_` and `$` of ASCII, and everything outside ASCII. -/
def isWordChar (c : Char) : Bool :=
  0x80 ≤ c.toNat || c.isAlphanum || c == '_' || c == '$'

/-- The characters of a qualified name. -/
def isDottedChar (c : Char) : Bool := isWordChar c || c == '.'

/-- What holds of all code points of ASCII holds of their characters. -/
theorem of_ascii {P : Char → Prop} (h : ∀ n < 0x80, P (Char.ofNat n)) {c : Char}
    (hc : c.toNat < 0x80) : P c := by
  have hp := h c.toNat hc
  rwa [Char.ofNat_toNat] at hp

end Name

namespace Unicode

/-- The properties of a character are those that the character classes of ASCII give it. -/
structure SeenAsAscii (c : Char) : Prop where
  uppercase : isUppercase c = c.isUpper
  lowercase : isLowercase c = c.isLower
  numeric : isNumeric c = c.isDigit
  alphabetic : isAlphabetic c = c.isAlpha
  upper : toUppercase c = [c.toUpper]

theorem seenAsAscii {c : Char} (h : c.toNat < 0x80) : SeenAsAscii c := by
  have htable : ∀ n < 0x80,
      isUppercase (Char.ofNat n) = (Char.ofNat n).isUpper ∧
        isLowercase (Char.ofNat n) = (Char.ofNat n).isLower ∧
        isNumeric (Char.ofNat n) = (Char.ofNat n).isDigit ∧
        isAlphabetic (Char.ofNat n) = (Char.ofNat n).isAlpha ∧
        toUppercase (Char.ofNat n) = [(Char.ofNat n).toUpper] := by
    decide +kernel
  apply Name.of_ascii (P := SeenAsAscii) (fun n hn => ?_) h
  obtain ⟨huppercase, hlowercase, hnumeric, halphabetic, hupper⟩ := htable n hn
  exact ⟨huppercase, hlowercase, hnumeric, halphabetic, hupper⟩

theorem Run.exists_of_covers {runs : List Run} {n : Nat} (h : covers runs n) :
    ∃ r ∈ runs, r.first ≤ n ∧ n ≤ r.last := by
  induction runs with
  | nil => simp [covers] at h
  | cons r runs ih =>
    simp only [covers] at h
    by_cases hlast : n ≤ r.last
    · rw [if_pos hlast] at h
      simp only [contains, Bool.and_eq_true, decide_eq_true_eq] at h
      exact ⟨r, List.mem_cons_self, h.1⟩
    · rw [if_neg hlast] at h
      obtain ⟨r', hr', hn⟩ := ih h
      exact ⟨r', List.mem_cons_of_mem r hr', hn⟩

theorem Shift.mem_of_image?_eq_some {shifts : List Shift} {n m : Nat}
    (h : Shift.image? shifts n = some m) :
    ∃ s ∈ shifts, s.first ≤ n ∧ n ≤ s.last ∧ (n - s.first) % s.step = 0 ∧
      m = s.target + (n - s.first) := by
  induction shifts with
  | nil => simp [Shift.image?] at h
  | cons s shifts ih =>
    simp only [Shift.image?] at h
    by_cases hlast : n ≤ s.last
    · rw [if_pos hlast] at h
      split_ifs at h with hfirst
      simp only [Bool.and_eq_true, decide_eq_true_eq, beq_iff_eq] at hfirst
      exact ⟨s, by simp, hfirst.1, hlast, hfirst.2, (Option.some.inj h).symm⟩
    · rw [if_neg hlast] at h
      obtain ⟨r, hr, hn⟩ := ih h
      exact ⟨r, List.mem_cons_of_mem _ hr, hn⟩

theorem mem_of_expansion?_eq_some {table : List (Nat × List Nat)} {n : Nat} {image : List Nat}
    (h : expansion? table n = some image) : (n, image) ∈ table := by
  induction table with
  | nil => simp [expansion?] at h
  | cons entry table ih =>
    obtain ⟨point, result⟩ := entry
    simp only [expansion?] at h
    split_ifs at h with hbefore hn
    · cases h
      simp [hn]
    · exact List.mem_cons_of_mem _ (ih h)

/-- Holds of a code point whose character is a capital of ASCII or lies outside ASCII. -/
def isWordPoint (n : Nat) : Bool :=
  (0x41 ≤ n && n ≤ 0x5A) || (0x80 ≤ n && n < 0xD800) || (0xDFFF < n && n < 0x110000)

theorem toNat_ofNat_of_isWordPoint {n : Nat} (h : isWordPoint n) : (Char.ofNat n).toNat = n := by
  have hvalid : n.isValidChar := by
    simp only [isWordPoint, Bool.or_eq_true, Bool.and_eq_true, decide_eq_true_eq] at h
    simp only [Nat.isValidChar]
    omega
  rw [Char.ofNat, dif_pos hvalid]
  rfl

theorem isWordChar_of_isWordPoint {n : Nat} (h : isWordPoint n) :
    Name.isWordChar (Char.ofNat n) := by
  by_cases hn : n < 0x80
  · have hascii : ∀ k < 0x80, isWordPoint k → Name.isWordChar (Char.ofNat k) := by decide
    exact hascii n hn h
  · simp [Name.isWordChar, toNat_ofNat_of_isWordPoint h, Nat.le_of_not_lt hn]

theorem isWordPoint_of_image? {n m : Nat} (h : Shift.image? uppercaseShifts n = some m) :
    isWordPoint m := by
  -- The images of a run are an interval that never crosses a bound of the class.
  have htable : ∀ s ∈ uppercaseShifts, isWordPoint s.target ∧
      isWordPoint (s.target + (s.last - s.first)) ∧
      (s.target ≤ 0x5A → s.target + (s.last - s.first) ≤ 0x5A) ∧
      (s.target < 0xD800 → s.target + (s.last - s.first) < 0xD800) := by
    decide +kernel
  obtain ⟨s, hs, hfirst, hlast, -, rfl⟩ := Shift.mem_of_image?_eq_some h
  obtain ⟨hlow, hhigh, hascii, hsurrogate⟩ := htable s hs
  simp only [isWordPoint, Bool.or_eq_true, Bool.and_eq_true, decide_eq_true_eq] at hlow hhigh ⊢
  omega

theorem isWordPoint_of_expansion? {n : Nat} {image : List Nat}
    (h : expansion? uppercaseExpansions n = some image) : ∀ m ∈ image, isWordPoint m := by
  have htable : ∀ entry ∈ uppercaseExpansions, ∀ m ∈ entry.2, isWordPoint m := by decide
  exact htable _ (mem_of_expansion?_eq_some h)

/-- The upper case of a character stands in one of the tables, or is the character. -/
theorem toUppercase_cases (c : Char) :
    (∃ m, Shift.image? uppercaseShifts c.toNat = some m ∧ toUppercase c = [Char.ofNat m]) ∨
      (∃ image, expansion? uppercaseExpansions c.toNat = some image ∧
        toUppercase c = image.map Char.ofNat) ∨
      toUppercase c = [c] := by
  unfold toUppercase
  cases hm : Shift.image? uppercaseShifts c.toNat with
  | some m => exact .inl ⟨m, rfl, rfl⟩
  | none =>
    cases himage : expansion? uppercaseExpansions c.toNat with
    | some image => exact .inr (.inl ⟨image, rfl, rfl⟩)
    | none => exact .inr (.inr rfl)

/-- What is in the upper case of a character is the character or comes from a word point. -/
theorem mem_toUppercase {c d : Char} (h : d ∈ toUppercase c) :
    d = c ∨ ∃ m, isWordPoint m ∧ d = Char.ofNat m := by
  rcases toUppercase_cases c with ⟨m, hm, hupper⟩ | ⟨image, himage, hupper⟩ | hupper
  · rw [hupper, List.mem_singleton] at h
    exact .inr ⟨m, isWordPoint_of_image? hm, h⟩
  · rw [hupper] at h
    obtain ⟨m, hm, rfl⟩ := List.mem_map.mp h
    exact .inr ⟨m, isWordPoint_of_expansion? himage m hm, rfl⟩
  · rw [hupper, List.mem_singleton] at h
    exact .inl h

theorem isWordChar_of_mem_toUppercase {c d : Char} (hc : Name.isWordChar c)
    (hd : d ∈ toUppercase c) : Name.isWordChar d := by
  rcases mem_toUppercase hd with rfl | ⟨m, hm, rfl⟩
  · exact hc
  · exact isWordChar_of_isWordPoint hm

end Unicode

namespace Name

theorem isWordChar_of_isIdentifierPart {c : Char} (h : isIdentifierPart c) : isWordChar c := by
  by_cases hc : c.toNat < 0x80
  · have hseen := Unicode.seenAsAscii hc
    rw [isIdentifierPart, Unicode.isAlphanumeric, hseen.alphabetic, hseen.numeric,
      ← Char.isAlphanum] at h
    rw [isWordChar, Bool.or_assoc, Bool.or_assoc, ← Bool.or_assoc c.isAlphanum, h, Bool.or_true]
  · simp [isWordChar, Nat.le_of_not_lt hc]

/-- No blank can stand in an identifier. -/
theorem isIdentifierPart_of_isWhiteSpace {c : Char} (h : Unicode.isWhiteSpace c) :
    isIdentifierPart c = false := by
  have htable : ∀ r ∈ Unicode.whiteSpaceRuns, ∀ n ∈ List.range' r.first (r.last + 1 - r.first),
      isIdentifierPart (Char.ofNat n) = false := by
    decide +kernel
  obtain ⟨r, hr, hfirst, hlast⟩ := Unicode.Run.exists_of_covers h
  have hc := htable r hr c.toNat (by rw [List.mem_range'_1]; omega)
  rwa [Char.ofNat_toNat] at hc

theorem isIdentifierPart_of_isIdentifierStart {c : Char} (h : isIdentifierStart c) :
    isIdentifierPart c := by
  simp only [isIdentifierStart, isIdentifierPart, Unicode.isAlphanumeric, Bool.or_eq_true] at h ⊢
  rcases h with (h | h) | h <;> simp [h]

theorem isIdentifierPart_of_mem {name : Text} (h : isIdentifier name) :
    ∀ c ∈ name, isIdentifierPart c := by
  cases name with
  | nil => simp
  | cons c name =>
    simp only [isIdentifier, Bool.and_eq_true, List.all_eq_true] at h
    intro d hd
    rcases List.mem_cons.mp hd with rfl | hd
    · exact isIdentifierPart_of_isIdentifierStart h.1
    · exact h.2 d hd

theorem all_isDottedChar_of_isWordChar {text : Text} (h : text.all isWordChar) :
    text.all isDottedChar :=
  Text.all_mono h fun c hc => by simp [isDottedChar, hc]

theorem all_isWordChar_of_isUsable {name : Text} (h : isUsable name) : name.all isWordChar := by
  simp only [isUsable, Bool.and_eq_true] at h
  have hpart : name.all isIdentifierPart := List.all_eq_true.mpr (isIdentifierPart_of_mem h.1)
  exact Text.all_mono hpart fun _ hc => isWordChar_of_isIdentifierPart hc

theorem all_isWordChar_capitalize {name : Text} (h : name.all isWordChar) :
    (capitalize name).all isWordChar := by
  cases name with
  | nil => rfl
  | cons c name =>
    simp only [List.all_cons, Bool.and_eq_true] at h
    simp only [capitalize, List.all_append, Bool.and_eq_true]
    refine ⟨?_, h.2⟩
    rw [List.all_eq_true]
    intro d hd
    exact Unicode.isWordChar_of_mem_toUppercase h.1 hd

theorem all_isWordChar_accessor {verb name : Text} (hverb : verb.all isWordChar)
    (hname : name.all isWordChar) : (accessor verb name).all isWordChar := by
  simp [accessor, hverb, all_isWordChar_capitalize hname]

theorem all_isWordChar_upperSnake {name : Text} (previous : Option Char)
    (h : name.all isWordChar) : (upperSnake previous name).all isWordChar := by
  induction name generalizing previous with
  | nil => rfl
  | cons c name ih =>
    simp only [List.all_cons, Bool.and_eq_true] at h
    simp only [upperSnake, List.all_append, Bool.and_eq_true]
    refine ⟨⟨?_, ?_⟩, ih _ h.2⟩
    · split <;> rfl
    · rw [List.all_eq_true]
      intro d hd
      exact Unicode.isWordChar_of_mem_toUppercase h.1 hd

theorem all_isWordChar_constant {name : Text} (h : name.all isWordChar) :
    (constant name).all isWordChar := by
  have hending : constantEnding.all isWordChar := by decide
  simp [constant, hending, all_isWordChar_upperSnake none h]

end Name
end TupleRecord
