import TupleRecord.Declaration.Quoting
import TupleRecord.Proofs.Text.Pieces

/-!
String literals of the host program. `Quoting.readQuoted?` takes a literal apart as a compiler
does, escape by escape up to the closing quote. A literal of `Quoting.standard` is read as its text,
whatever follows it; so no text can end its own literal.
-/
namespace TupleRecord.Quoting

/-- The value of a hexadecimal digit. -/
def hexDigit? (c : Char) : Option Nat :=
  if '0' ≤ c ∧ c ≤ '9' then some (c.toNat - '0'.toNat)
  else if 'a' ≤ c ∧ c ≤ 'f' then some (c.toNat - 'a'.toNat + 10)
  else if 'A' ≤ c ∧ c ≤ 'F' then some (c.toNat - 'A'.toNat + 10)
  else none

/-- The value of some hexadecimal digits behind others of the value `n`. -/
def readHex? (n : Nat) : Text → Option Nat
  | [] => some n
  | c :: rest => do readHex? (16 * n + (← hexDigit? c)) rest

/-- The characters that a backslash and one more character stand for. -/
def shortEscapes : List (Char × Char) :=
  [('0', '\x00'), ('t', '\t'), ('r', '\r'), ('n', '\n'), ('\\', '\\'), ('"', '"'), ('\'', '\'')]

/-- The first character of a literal, and what follows it. A character by its code point is written
with two digits if it is one of ASCII, or else with any number of them in braces. -/
def readChar? : Text → Option (Char × Text)
  | '\\' :: 'x' :: high :: low :: rest => do
    let n ← readHex? 0 [high, low]
    if n < 0x80 then some (Char.ofNat n, rest) else none
  | '\\' :: 'u' :: '\x7b' :: rest => do
    let n ← readHex? 0 (rest.takeWhile (· != '\x7d'))
    match rest.dropWhile (· != '\x7d') with
    | _ :: rest => if n.isValidChar then some (Char.ofNat n, rest) else none
    | [] => none
  | '\\' :: code :: rest => (shortEscapes.lookup code).map fun c => (c, rest)
  | ['\\'] => none
  | '"' :: _ => none
  | c :: rest => some (c, rest)
  | [] => none

/-- The text of a literal behind its opening quote, and what follows the closing one. -/
def readQuoted? (text : Text) : Option (Text × Text) :=
  if text.head? = some '"' then some ([], text.tail)
  else
    match readChar? text with
    | some (c, rest) =>
      if rest.length < text.length then
        (readQuoted? rest).map fun (value, rest) => (c :: value, rest)
      else none
    | none => none
termination_by text.length

/-- The text of a token that is a literal. -/
def literalValue? : Text → Option Text
  | '"' :: quoted =>
    match readQuoted? quoted with
    | some (value, []) => some value
    | _ => none
  | _ => none

theorem hexDigit?_digitChar {d : Nat} (h : d < 16) : hexDigit? (Nat.digitChar d) = some d := by
  have hdigits : ∀ d < 16, hexDigit? (Nat.digitChar d) = some d := by decide
  exact hdigits d h

theorem readHex?_append (n : Nat) (a b : Text) :
    readHex? n (a ++ b) = (readHex? n a).bind fun m => readHex? m b := by
  induction a generalizing n with
  | nil => rfl
  | cons c a ih =>
    simp only [List.cons_append, readHex?, Option.bind_eq_bind, Option.bind_assoc, ih]

/-- Digits are read as the number that they were printed of. -/
theorem readHex?_toDigits (n : Nat) : readHex? 0 (Nat.toDigits 16 n) = some n := by
  induction n using Nat.strong_induction_on with
  | _ n ih =>
    rw [Nat.toDigits_eq_if (by decide)]
    by_cases hn : n < 16
    · rw [if_pos hn]
      simp [readHex?, hexDigit?_digitChar hn]
    · rw [if_neg hn, readHex?_append, ih (n / 16) (by omega)]
      have hdigit := hexDigit?_digitChar (Nat.mod_lt n (by decide : 16 > 0))
      simp only [readHex?, Option.bind_some, hdigit, Option.bind_eq_bind, Option.some.injEq]
      omega

theorem brace_notMem_toDigits (n : Nat) : '\x7d' ∉ Nat.toDigits 16 n := by
  induction n using Nat.strong_induction_on with
  | _ n ih =>
    have hdigits : ∀ d < 16, Nat.digitChar d ≠ '\x7d' := by decide
    rw [Nat.toDigits_eq_if (by decide)]
    by_cases hn : n < 16
    · rw [if_pos hn, List.mem_singleton]
      exact (hdigits n hn).symm
    · rw [if_neg hn, List.mem_append, List.mem_singleton]
      rintro (hmem | hmem)
      · exact ih (n / 16) (by omega) hmem
      · exact hdigits (n % 16) (by omega) hmem.symm

theorem readChar?_escapeCode (c : Char) (rest : Text) :
    readChar? (escapeCode c ++ rest) = some (c, rest) := by
  have htext : escapeCode c ++ rest =
      '\\' :: 'u' :: '\x7b' :: (Nat.toDigits 16 c.toNat ++ '\x7d' :: rest) := by
    simp [escapeCode]
  obtain ⟨hdigits, hafter⟩ := Text.takeWhile_append_cons (brace_notMem_toDigits c.toNat) rest
  rw [htext]
  simp only [readChar?, hdigits, hafter, readHex?_toDigits, Option.bind_eq_bind, Option.bind_some,
    Char.ofNat_toNat]
  have hvalid : c.toNat.isValidChar := c.valid
  rw [if_pos hvalid]

/-- A character that is neither a quote nor a backslash stands for itself. -/
theorem readChar?_plain {c : Char} (hquote : c ≠ '"') (hslash : c ≠ '\\') (rest : Text) :
    readChar? (c :: rest) = some (c, rest) := by
  unfold readChar?
  split <;> simp_all

/-- A character is read from its escape, whatever follows it. -/
theorem readChar?_escapeChar (c : Char) (next : Option Char) (rest : Text) :
    readChar? (escapeChar c next ++ rest) = some (c, rest) := by
  unfold escapeChar
  split_ifs with hnul hnext htab hreturn hfeed hslash hquote hplain
  · rw [hnul]
    rfl
  · rw [hnul]
    rfl
  · rw [htab]
    rfl
  · rw [hreturn]
    rfl
  · rw [hfeed]
    rfl
  · rw [hslash]
    rfl
  · rw [hquote]
    rfl
  · exact readChar?_plain hquote hslash rest
  · exact readChar?_escapeCode c rest

/-- An escape does not begin with what ends its literal. -/
theorem exists_escapeChar_eq_cons (c : Char) (next : Option Char) :
    ∃ d tail, escapeChar c next = d :: tail ∧ d ≠ '"' := by
  unfold escapeChar
  split_ifs with hnul hnext htab hreturn hfeed hslash hquote hplain
  all_goals first
    | exact ⟨_, _, rfl, hquote⟩
    | exact ⟨_, _, rfl, by decide⟩

/-- A text is read from its literal, and what follows the literal is left. -/
theorem readQuoted?_escape (text rest : Text) :
    readQuoted? (escape text ++ '"' :: rest) = some (text, rest) := by
  induction text with
  | nil =>
    rw [escape, readQuoted?]
    simp
  | cons c text ih =>
    obtain ⟨d, tail, hescape, hd⟩ := exists_escapeChar_eq_cons c text.head?
    have hchar := readChar?_escapeChar c text.head? (escape text ++ '"' :: rest)
    rw [hescape, List.cons_append] at hchar
    rw [escape, hescape, List.append_assoc, List.cons_append, readQuoted?, List.head?_cons,
      if_neg (by simpa using hd), hchar]
    have hshorter : (escape text ++ '"' :: rest).length <
        (d :: (tail ++ (escape text ++ '"' :: rest))).length := by
      have hlength := @List.length_append Char tail (escape text ++ '"' :: rest)
      rw [List.length_cons]
      omega
    simp only [if_pos hshorter, ih, Option.map_some]

theorem literalValue?_literal (text : Text) :
    literalValue? (standard.literal text) = some text := by
  simp only [standard, literalValue?, readQuoted?_escape]

end TupleRecord.Quoting
