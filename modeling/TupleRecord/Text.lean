/-!
Text as a list of characters, and the cuts that names and type names need: the two ends of a
text, the pieces between separators, and what follows the last separator. Line breaks and
blanks at the ends are in `TupleRecord.Text.Lines`.
-/
namespace TupleRecord

/-- Text is held as its characters, so everything said about it is said about a list. -/
abbrev Text := List Char

instance : Coe String Text := ⟨String.toList⟩

namespace Text

/-- What follows `start` in a text that begins with it. -/
def dropStart? : (start text : Text) → Option Text
  | [], text => some text
  | _ :: _, [] => none
  | c :: start, d :: text => if c = d then dropStart? start text else none

/-- What precedes `ending` in a text that closes with it. -/
def dropEnd? (ending text : Text) : Option Text :=
  (dropStart? ending.reverse text.reverse).map List.reverse

theorem dropStart?_eq_some_iff {start text rest : Text} :
    dropStart? start text = some rest ↔ text = start ++ rest := by
  induction start generalizing text with
  | nil => simp [dropStart?]
  | cons c start ih =>
    cases text with
    | nil => simp [dropStart?]
    | cons d text =>
      by_cases h : c = d
      · simp [dropStart?, h, ih]
      · simp [dropStart?, h, Ne.symm h]

theorem dropEnd?_eq_some_iff {ending text rest : Text} :
    dropEnd? ending text = some rest ↔ text = rest ++ ending := by
  simp only [dropEnd?, Option.map_eq_some_iff, dropStart?_eq_some_iff]
  constructor
  · rintro ⟨r, h, rfl⟩
    simpa using congrArg List.reverse h
  · rintro rfl
    exact ⟨rest.reverse, by simp, by simp⟩

/-- Holds of a text that closes with `ending`; every text closes with the empty one. -/
def endsWith (ending text : Text) : Bool := (dropEnd? ending text).isSome

/-- The pieces between the characters that `sep` marks: one more than there are marks. -/
def splitBy (sep : Char → Bool) : Text → List Text
  | [] => [[]]
  | c :: text =>
    if sep c then [] :: splitBy sep text
    else
      match splitBy sep text with
      | [] => [[c]]
      | piece :: pieces => (c :: piece) :: pieces

/-- The pieces of a text between occurrences of one character. -/
def split (sep : Char) (text : Text) : List Text := splitBy (· == sep) text

theorem splitBy_ne_nil (sep : Char → Bool) (text : Text) : splitBy sep text ≠ [] := by
  cases text with
  | nil => simp [splitBy]
  | cons c text =>
    unfold splitBy
    split
    · simp
    · split <;> simp

/-- The part of a text behind the last `sep`, or all of it. -/
def afterLast (sep : Char) (text : Text) : Text :=
  (text.reverse.takeWhile (· != sep)).reverse

end Text
end TupleRecord
