import Mathlib.Algebra.Ring.Parity
import Mathlib.Data.List.DropRight
import TupleRecord.Java.Literal

/-!
Reading string literals back. A compiler goes through a literal twice: first it replaces unicode
escapes, which begin at a backslash with an even number of backslashes before it; then it decodes
the other escapes up to the first quote that no backslash covers. The literal of a text has nothing
to replace, ends at its last quote only, and is decoded as the text.
-/
namespace TupleRecord.Java.Literal

/-! ### The reader -/

/-- Holds of a character that stands for itself inside a literal. -/
def isRaw (c : Char) : Bool := c != '\\' && c != '"' && c != '\n' && c != '\r'

def isOctalDigit (c : Char) : Bool := '0' ≤ c && c ≤ '7'

/-- The digits of an octal escape at the start of a text: three if the first is at most 3, or else
two. -/
def octalDigits (text : Text) : Text :=
  (text.take (if text.head?.any (· ≤ '3') then 3 else 2)).takeWhile isOctalDigit

def octalValue (digits : Text) : Nat :=
  digits.foldl (fun n digit => 8 * n + (digit.toNat - '0'.toNat)) 0

/-- The characters that a backslash and one more character stand for. -/
def namedEscapes : List (Char × Char) :=
  [('b', '\x08'), ('s', ' '), ('t', '\t'), ('n', '\n'), ('f', '\x0c'), ('r', '\r'), ('"', '"'),
    ('\'', '\''), ('\\', '\\')]

/-- The character of an escape whose backslash stands before the text, and how many characters of
the text belong to the escape. -/
def readEscape? (text : Text) : Option (Char × Nat) :=
  match octalDigits text with
  | [] => text.head?.bind fun code => (namedEscapes.lookup code).map fun c => (c, 1)
  | digits => some (Char.ofNat (octalValue digits), digits.length)

/-- Decodes the inside of a literal behind some characters that belong to an escape. -/
def decodeBehind? : Nat → Text → Option Text
  | _, [] => some []
  | skipped + 1, _ :: rest => decodeBehind? skipped rest
  | 0, c :: rest =>
    if c = '\\' then
      (readEscape? rest).bind fun (value, length) => (decodeBehind? length rest).map (value :: ·)
    else if isRaw c then (decodeBehind? 0 rest).map (c :: ·)
    else none

/-- The text that a literal denotes, by what stands between its quotes. -/
def decode? (interior : Text) : Option Text := decodeBehind? 0 interior

/-- How many backslashes stand in a row at the end of a text. -/
def backslashes (before : Text) : Nat := (before.rtakeWhile (· == '\\')).length

/-- One complete literal: a quote inside is covered by the last of an odd number of backslashes and
the closing one is not, no line ends, and no backslash begins a unicode escape. -/
structure Complete (literal interior : Text) : Prop where
  delimited : literal = '"' :: (interior ++ ['"'])
  covered : ∀ before after, interior = before ++ '"' :: after → Odd (backslashes ('"' :: before))
  closes : Even (backslashes ('"' :: interior))
  oneLine : '\n' ∉ literal ∧ '\r' ∉ literal
  untranslated : ∀ before after, literal = before ++ '\\' :: 'u' :: after → Odd (backslashes before)

/-! ### What is decoded -/

/-- What stands behind the backslash of an escape that is written. -/
def codes : List Char := "\"\\nrt"

/-- A character is written as itself, or as the code of its escape behind a backslash. -/
theorem escapeChar_cases (c : Char) :
    (escapeChar c = [c] ∧ isRaw c) ∨
      ∃ code ∈ codes, escapeChar c = ['\\', code] ∧ namedEscapes.lookup code = some c := by
  unfold escapeChar
  split_ifs with hquote hbackslash hfeed hreturn htab
  · exact .inr ⟨'"', by decide, rfl, by rw [hquote]; rfl⟩
  · exact .inr ⟨'\\', by decide, rfl, by rw [hbackslash]; rfl⟩
  · exact .inr ⟨'n', by decide, rfl, by rw [hfeed]; rfl⟩
  · exact .inr ⟨'r', by decide, rfl, by rw [hreturn]; rfl⟩
  · exact .inr ⟨'t', by decide, rfl, by rw [htab]; rfl⟩
  · exact .inl ⟨rfl, by simp [isRaw, hquote, hbackslash, hfeed, hreturn]⟩

theorem ne_backslash_of_isRaw {c : Char} (h : isRaw c) : c ≠ '\\' := by
  rintro rfl
  cases h

/-- An escape that does not begin with a digit is one of the table. -/
theorem readEscape?_code {code : Char} (h : isOctalDigit code = false) (rest : Text) :
    readEscape? (code :: rest) = (namedEscapes.lookup code).map fun c => (c, 1) := by
  have hnone : octalDigits (code :: rest) = [] := by
    unfold octalDigits
    split_ifs <;> rw [List.take_succ_cons, List.takeWhile_cons_of_neg (by simp [h])]
  rw [readEscape?, hnone]
  rfl

theorem decodeBehind?_escapeChar (c : Char) (rest : Text) :
    decodeBehind? 0 (escapeChar c ++ rest) = (decodeBehind? 0 rest).map (c :: ·) := by
  rcases escapeChar_cases c with ⟨hc, hraw⟩ | ⟨code, hcode, hc, hvalue⟩
  · rw [hc, List.singleton_append, decodeBehind?, if_neg (ne_backslash_of_isRaw hraw), if_pos hraw]
  · have hnone : codes.all (!isOctalDigit ·) := by decide
    have hdigit : isOctalDigit code = false := by
      simpa using List.all_eq_true.mp hnone code hcode
    rw [hc]
    simp only [List.cons_append, List.nil_append, decodeBehind?, if_true,
      readEscape?_code hdigit, hvalue, Option.map_some, Option.bind_some]

theorem decode?_escape (text : Text) : decode? (text.flatMap escapeChar) = some text := by
  unfold decode?
  induction text with
  | nil => rfl
  | cons c text ih => rw [List.flatMap_cons, decodeBehind?_escapeChar, ih, Option.map_some]

/-! ### Where the backslashes stand -/

theorem backslashes_concat (before : Text) :
    backslashes (before ++ ['\\']) = backslashes before + 1 := by
  rw [backslashes, List.rtakeWhile_concat_pos _ _ _ (by decide), List.length_append]
  rfl

theorem backslashes_concat_of_ne {c : Char} (h : c ≠ '\\') (before : Text) :
    backslashes (before ++ [c]) = 0 := by
  rw [backslashes, List.rtakeWhile_concat_neg _ _ _ (by simpa using h)]
  rfl

/-- Where no escape is open the run of backslashes is even, and a whole character keeps it so. -/
theorem even_backslashes_escapeChar {start : Text} (h : Even (backslashes start)) (c : Char) :
    Even (backslashes (start ++ escapeChar c)) := by
  rcases escapeChar_cases c with ⟨hc, hraw⟩ | ⟨code, -, hc, -⟩ <;> rw [hc]
  · rw [backslashes_concat_of_ne (ne_backslash_of_isRaw hraw)]
    exact Even.zero
  · have hcode : start ++ ['\\', code] = (start ++ ['\\']) ++ [code] := by simp
    rw [hcode]
    by_cases hbackslash : code = '\\'
    · rw [hbackslash, backslashes_concat, backslashes_concat]
      exact h.add even_two
    · rw [backslashes_concat_of_ne hbackslash]
      exact Even.zero

theorem even_backslashes_escape {start : Text} (h : Even (backslashes start)) (text : Text) :
    Even (backslashes (start ++ text.flatMap escapeChar)) := by
  induction text generalizing start with
  | nil => rwa [List.flatMap_nil, List.append_nil]
  | cons c text ih =>
    rw [List.flatMap_cons, ← List.append_assoc]
    exact ih (even_backslashes_escapeChar h c)

/-- What a character behind the opening quote is, with what stands before it. -/
inductive Role (before : Text) (c : Char) (after : Text) : Prop where
  | raw (raw : isRaw c)
  | backslash (is : c = '\\') (escapes : ∃ code ∈ codes, after.head? = some code)
  | code (known : c ∈ codes) (covered : Odd (backslashes before))
  | closing (is : c = '"') (last : after = [])

/-- A text of one character is cut at that character only. -/
theorem cut_singleton {before after : Text} {c d : Char} (h : [d] = before ++ c :: after) :
    before = [] ∧ c = d ∧ after = [] := by
  simpa [List.singleton_eq_append_iff] using h

theorem role_of_escapeChar {start before after : Text} {c d : Char}
    (hstart : Even (backslashes start)) (h : escapeChar d = before ++ c :: after) (rest : Text) :
    Role (start ++ before) c (after ++ rest) := by
  rcases escapeChar_cases d with ⟨hd, hraw⟩ | ⟨code, hcode, hd, -⟩ <;> rw [hd] at h
  · obtain ⟨rfl, rfl, -⟩ := cut_singleton h
    exact .raw hraw
  · cases before with
    | nil =>
      obtain ⟨rfl, rfl⟩ := List.cons.inj h
      exact .backslash rfl ⟨code, hcode, rfl⟩
    | cons e before =>
      obtain ⟨rfl, hlast⟩ := List.cons.inj h
      obtain ⟨rfl, rfl, -⟩ := cut_singleton hlast
      refine .code hcode ?_
      rw [backslashes_concat]
      exact hstart.add_one

theorem role_of_split {start text before after : Text} {c : Char}
    (hstart : Even (backslashes start))
    (h : text.flatMap escapeChar ++ ['"'] = before ++ c :: after) :
    Role (start ++ before) c after := by
  induction text generalizing start before with
  | nil =>
    obtain ⟨-, hc, hafter⟩ := cut_singleton h
    exact .closing hc hafter
  | cons d text ih =>
    have hnext := even_backslashes_escapeChar hstart d
    rw [List.flatMap_cons, List.append_assoc, List.append_eq_append_iff] at h
    -- What is written for `d` ends before the character or has it inside.
    rcases h with ⟨more, rfl, hrest⟩ | ⟨piece, hd, hrest⟩
    · rw [← List.append_assoc]
      exact ih hnext hrest
    · cases piece with
      | nil =>
        have hrole := @ih _ [] hnext hrest.symm
        rwa [hd, List.append_nil, List.append_nil] at hrole
      | cons e piece =>
        obtain ⟨rfl, rfl⟩ := List.cons.inj hrest
        exact role_of_escapeChar hstart hd _

/-- No backslash stands before the opening quote, so none is in a run behind it. -/
theorem even_backslashes_opening : Even (backslashes ['"']) := Even.zero

theorem role_of_quote {text before after : Text} {c : Char}
    (h : quote text = '"' :: (before ++ c :: after)) : Role ('"' :: before) c after :=
  role_of_split even_backslashes_opening (List.cons.inj h).2

/-- A literal has no characters but raw ones, codes, quotes and backslashes. -/
theorem notMem_quote {text : Text} {c : Char} (hraw : isRaw c = false) (hcode : c ∉ codes)
    (hquote : c ≠ '"') (hbackslash : c ≠ '\\') : c ∉ quote text := by
  rw [quote, List.mem_cons, not_or]
  refine ⟨hquote, fun hmem => ?_⟩
  obtain ⟨before, after, h⟩ := List.append_of_mem hmem
  cases role_of_quote (congrArg ('"' :: ·) h) with
  | raw raw => exact absurd raw (by simp [hraw])
  | backslash is => exact hbackslash is
  | code known => exact hcode known
  | closing is => exact hquote is

theorem complete_quote (text : Text) : Complete (quote text) (text.flatMap escapeChar) where
  delimited := rfl
  covered := by
    intro before after h
    have hquote : quote text = '"' :: (before ++ '"' :: (after ++ ['"'])) := by simp [quote, h]
    cases role_of_quote hquote with
    | raw raw => cases raw
    | backslash is => cases is
    | code _ covered => exact covered
    | closing _ last => simp at last
  closes := even_backslashes_escape even_backslashes_opening text
  oneLine := ⟨notMem_quote rfl (by decide) (by decide) (by decide),
    notMem_quote rfl (by decide) (by decide) (by decide)⟩
  untranslated := by
    intro before after h
    cases before with
    | nil => cases h
    | cons d before =>
      obtain rfl : d = '"' := (List.cons.inj h).1.symm
      cases role_of_quote h with
      | raw raw => cases raw
      | backslash _ escapes =>
        obtain ⟨code, hcode, hu⟩ := escapes
        cases hu
        exact absurd hcode (by decide)
      | code _ covered => exact covered
      | closing is => cases is

/-- The literal of a text is complete and denotes that text, so no other text has it. -/
theorem quote_denotes :
    (∀ text, ∃ interior, Complete (quote text) interior ∧ decode? interior = some text) ∧
      Function.Injective quote := by
  refine ⟨fun text => ⟨_, complete_quote text, decode?_escape text⟩, fun a b h => ?_⟩
  have hinterior : a.flatMap escapeChar = b.flatMap escapeChar :=
    List.append_cancel_right (List.cons.inj h).2
  have hdecode : some a = some b := by rw [← decode?_escape a, hinterior, decode?_escape b]
  exact Option.some.inj hdecode

example : decode? "\\1012\\t\\\\u0041" = some "A2\t\\u0041" := by decide

end TupleRecord.Java.Literal
