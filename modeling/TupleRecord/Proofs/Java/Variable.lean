import TupleRecord.Java.Method
import TupleRecord.Name.Identifier
import TupleRecord.Proofs.Name.Word

/-!
The variables in source text, read word by word. A word is a longest run of the characters that
names can have. It can stand for a variable unless it is a number, a reserved word, a member behind
a dot, a method before its arguments or the type of an array; and it is declared if a blank sets it
off from its type and an assignment follows.
-/
namespace TupleRecord.Java

/-- The words of a text that `p` holds of, which sees the character before a word and what follows
it. The text goes on with the characters `word` of a word that has begun. -/
def wordsWhere (p : Option Char → Text → Text → Bool) (before : Option Char) (word : Text) :
    Text → List Text
  | [] => if p before word [] then [word] else []
  | c :: text =>
    if Name.isWordChar c then wordsWhere p before (word ++ [c]) text
    else (if p before word (c :: text) then [word] else []) ++ wordsWhere p (some c) [] text

/-- Holds of a word that is neither a number nor reserved; the empty word counts as a number. -/
def isVariableName (word : Text) : Bool := !word.all Char.isDigit && !Name.isReserved word

def isVariable (before : Option Char) (word behind : Text) : Bool :=
  isVariableName word && before != some '.' && behind.head? != some '(' &&
    (Text.dropStart? "[]" behind).isNone

def isDeclared (before : Option Char) (word behind : Text) : Bool :=
  isVariableName word && before == some ' ' && (Text.dropStart? " = " behind).isSome

/-- The variables in a text, in the order in which they occur. -/
def mentioned (text : Text) : List Text := wordsWhere isVariable none [] text

/-- The variables that a text declares. -/
def declared (text : Text) : List Text := wordsWhere isDeclared none [] text

namespace Code

/-- What the lines of a run of statements have, each read by `read`. -/
def collect (read : Text → List Text) : Code → List Text
  | done => []
  | line text next => read text ++ next.collect read
  | blank next => next.collect read
  | block head body next => read head ++ body.collect read ++ next.collect read

def mentioned (c : Code) : List Text := c.collect Java.mentioned

def declared (c : Code) : List Text := c.collect Java.declared

theorem collect_ofLines (read : Text → List Text) (texts : List Text) :
    (ofLines texts).collect read = texts.flatMap read := by
  induction texts with
  | nil => rfl
  | cons text texts ih => rw [ofLines, collect, ih, List.flatMap_cons]

end Code

variable {p : Option Char → Text → Text → Bool} {before : Option Char}

/-- A word ends at the first character that no name has. -/
theorem wordsWhere_word {word : Text} {c : Char} (begun : Text) (h : word.all Name.isWordChar)
    (hc : Name.isWordChar c = false) (text : Text) :
    wordsWhere p before begun (word ++ c :: text) =
      (if p before (begun ++ word) (c :: text) then [begun ++ word] else []) ++
        wordsWhere p (some c) [] text := by
  induction word generalizing begun with
  | nil => simp [wordsWhere, hc]
  | cons d word ih =>
    rw [List.all_cons, Bool.and_eq_true] at h
    rw [List.cons_append, wordsWhere, if_pos h.1, ih _ h.2]
    simp

theorem mentioned_word {word : Text} {c : Char} (hword : word.all Name.isWordChar)
    (hname : isVariableName word) (hbefore : before ≠ some '.') (hc : Name.isWordChar c = false)
    (hcall : c ≠ '(') (harray : c ≠ '[') (text : Text) :
    wordsWhere isVariable before [] (word ++ c :: text) =
      word :: wordsWhere isVariable (some c) [] text := by
  have harray' : Text.dropStart? "[]" (c :: text) = none := if_neg harray.symm
  have hvariable : isVariable before word (c :: text) := by
    rw [isVariable, hname, harray']
    simp [hbefore, hcall]
  rw [wordsWhere_word [] hword hc, List.nil_append, if_pos hvariable, List.singleton_append]

/-- What stands behind a dot is a member. -/
theorem mentioned_member {word : Text} {c : Char} (hword : word.all Name.isWordChar)
    (hc : Name.isWordChar c = false) (text : Text) :
    wordsWhere isVariable (some '.') [] (word ++ c :: text) =
      wordsWhere isVariable (some c) [] text := by
  have hmember : isVariable (some '.') word (c :: text) = false := by simp [isVariable]
  rw [wordsWhere_word [] hword hc, List.nil_append, hmember]
  rfl

example : mentioned "a.b(c[0], new T(), (U[]) null, d)" = ["a", "c", "d"] := by decide +kernel

theorem isDeclared_of_ne {word : Text} {c : Char} (h : c ≠ ' ') (behind : Text) :
    isDeclared before word (c :: behind) = false := by
  have hassigned : Text.dropStart? " = " (c :: behind) = none := if_neg h.symm
  rw [isDeclared, hassigned, Option.isSome_none, Bool.and_false]

theorem isDeclared_of_notMem {word behind : Text} (h : '=' ∉ behind) :
    isDeclared before word behind = false := by
  have hassigned : Text.dropStart? " = " behind = none := by
    rw [Option.eq_none_iff_forall_ne_some]
    intro rest hrest
    rw [Text.dropStart?_eq_some_iff.mp hrest] at h
    simp at h
  rw [isDeclared, hassigned, Option.isSome_none, Bool.and_false]

/-- A text without an assignment declares nothing. -/
theorem declared_of_notMem {text : Text} (word : Text) (h : '=' ∉ text) :
    wordsWhere isDeclared before word text = [] := by
  induction text generalizing before word with
  | nil => rw [wordsWhere, isDeclared_of_notMem h]; rfl
  | cons c text ih =>
    have htext : '=' ∉ text := fun hmem => h (List.mem_cons_of_mem c hmem)
    rw [wordsWhere, isDeclared_of_notMem h, ih _ htext, ih _ htext]
    exact ite_self []

/-- A qualified name that no blank follows declares nothing. -/
theorem declared_dotted {a : Text} {c : Char} (word : Text) (ha : a.all Name.isDottedChar)
    (hc : Name.isWordChar c = false) (hblank : c ≠ ' ') (text : Text) :
    wordsWhere isDeclared before word (a ++ c :: text) =
      wordsWhere isDeclared (some c) [] text := by
  induction a generalizing before word with
  | nil => rw [List.nil_append, wordsWhere, hc, isDeclared_of_ne hblank]; rfl
  | cons d a ih =>
    rw [List.all_cons, Bool.and_eq_true] at ha
    rw [List.cons_append, wordsWhere]
    by_cases hd : Name.isWordChar d
    · rw [if_pos hd, ih _ ha.2]
    · have hdot : d = '.' := by simpa [Name.isDottedChar, hd] using ha.1
      rw [if_neg hd, hdot, isDeclared_of_ne (by decide), ih _ ha.2]
      rfl

example : declared "for (int i = 0, j = f(k == i ? 1 : x.y); ; )" = ["i", "j"] := by
  decide +kernel

end TupleRecord.Java
