import TupleRecord.Java.Method
import TupleRecord.Proofs.Name.Word
import TupleRecord.Tuple

/-!
The accesses to a record's entry, read back from source text. An access is found wherever the name
of the entry stands before a call, even at the end of a longer name, and gives the first argument
of the call as the constant it addresses. Names and types before a method are no accesses.
-/
namespace TupleRecord.Java

/-- A call of a method of the entry, with the constant that is its first argument. -/
structure Access where
  method : Text
  constant : Text
  deriving DecidableEq, Repr

def Access.entryStart : Text := Tuple.entryMember ++ "."

/-- Ends an argument of a call. -/
def endsArgument (c : Char) : Bool := c == ',' || c == ')'

/-- Reads the access that a text begins with. A call without an argument addresses nothing. -/
def Access.read? (text : Text) : Option Access :=
  match Text.dropStart? entryStart text with
  | none => none
  | some call =>
    match call.dropWhile Name.isIdentifierPart with
    | '(' :: arguments =>
      let constant := arguments.takeWhile (!endsArgument ·)
      if constant = [] then none else some ⟨call.takeWhile Name.isIdentifierPart, constant⟩
    | _ => none

/-- All accesses in a text, from the left. -/
def accesses : Text → List Access
  | [] => []
  | c :: text => (Access.read? (c :: text)).toList ++ accesses text

/-- The accesses in a run of statements. -/
def Code.accesses : Code → List Access
  | done => []
  | line text next => Java.accesses text ++ next.accesses
  | blank next => next.accesses
  | block head body next => Java.accesses head ++ body.accesses ++ next.accesses

namespace Access

theorem read?_eq_none_of_head {text : Text} (h : text.head? ≠ some '_') : read? text = none := by
  cases text with
  | nil => rfl
  | cons c text =>
    have hc : '_' ≠ c := by
      rintro rfl
      exact h rfl
    have hdrop : Text.dropStart? entryStart (c :: text) = none := if_neg hc
    rw [read?, hdrop]

end Access

theorem accesses_cons {c : Char} (h : '_' ≠ c) (text : Text) :
    accesses (c :: text) = accesses text := by
  have hc : (c :: text).head? ≠ some '_' := by simpa using Ne.symm h
  rw [accesses, Access.read?_eq_none_of_head hc]
  rfl

/-- A start without the first character of the entry's name has no access in it. -/
theorem accesses_append_of_notMem {a : Text} (h : '_' ∉ a) (b : Text) :
    accesses (a ++ b) = accesses b := by
  induction a with
  | nil => rfl
  | cons c a ih =>
    simp only [List.mem_cons, not_or] at h
    rw [List.cons_append, accesses_cons h.1, ih h.2]

theorem Code.accesses_ofLines (texts : List Text) :
    (Code.ofLines texts).accesses = texts.flatMap Java.accesses := by
  induction texts with
  | nil => rfl
  | cons text texts ih => rw [ofLines, accesses, ih, List.flatMap_cons]

theorem Code.accesses_single (text : Text) : (Code.ofLines [text]).accesses = Java.accesses text := by
  rw [accesses_ofLines, List.flatMap_singleton]

theorem accesses_of_notMem {text : Text} (h : '_' ∉ text) : accesses text = [] := by
  have happend := accesses_append_of_notMem h []
  rwa [List.append_nil] at happend

namespace Access

/-- A call whose name and first argument are cut off where they should be. -/
theorem read?_call {method constant : Text} {stop : Char} (rest : Text)
    (hmethod : method.all Name.isIdentifierPart) (hconstant : ∀ c ∈ constant, !endsArgument c)
    (hne : constant ≠ []) (hstop : endsArgument stop) :
    read? (entryStart ++ (method ++ '(' :: (constant ++ stop :: rest))) =
      some ⟨method, constant⟩ := by
  have hdrop : Text.dropStart? entryStart
      (entryStart ++ (method ++ '(' :: (constant ++ stop :: rest))) =
        some (method ++ '(' :: (constant ++ stop :: rest)) :=
    Text.dropStart?_eq_some_iff.mpr rfl
  have hopen : Name.isIdentifierPart '(' = false := by decide +kernel
  have hname := List.all_eq_true.mp hmethod
  have hcall : (method ++ '(' :: (constant ++ stop :: rest)).dropWhile Name.isIdentifierPart =
      '(' :: (constant ++ stop :: rest) := by
    rw [List.dropWhile_append_of_pos hname, List.dropWhile_cons_of_neg (by simp [hopen])]
  have htake : (method ++ '(' :: (constant ++ stop :: rest)).takeWhile Name.isIdentifierPart =
      method := by
    rw [List.takeWhile_append_of_pos hname, List.takeWhile_cons_of_neg (by simp [hopen]),
      List.append_nil]
  have hargument : (constant ++ stop :: rest).takeWhile (!endsArgument ·) = constant := by
    rw [List.takeWhile_append_of_pos hconstant, List.takeWhile_cons_of_neg (by simp [hstop]),
      List.append_nil]
  rw [read?, hdrop]
  simp only [hcall, htake, hargument, if_neg hne]

theorem eq_append_of_dotted {a call rest : Text} {c : Char} (hc : Name.isDottedChar c = false)
    (h : a ++ c :: rest = entryStart ++ call) : ∃ a', a = entryStart ++ a' ∧ call = a' ++ c :: rest := by
  rcases List.append_eq_append_iff.mp h with ⟨before, hbefore, hrest⟩ | ⟨a', ha, hcall⟩
  · cases before with
    | nil => exact ⟨[], by simpa using hbefore.symm, by simpa using hrest.symm⟩
    | cons d before =>
      obtain ⟨rfl, -⟩ := List.cons.inj hrest
      have hmem : c ∈ entryStart := by simp [hbefore]
      have hdotted : entryStart.all Name.isDottedChar := by decide +kernel
      simp [List.all_eq_true.mp hdotted c hmem] at hc
  · exact ⟨a', ha, hcall⟩

/-- Names and dots alone are no access, not even before the brackets of an empty call. -/
theorem read?_dotted {a rest : Text} {c : Char} (ha : a.all Name.isDottedChar)
    (hc : Name.isDottedChar c = false) (hcall : c = '(' → rest.head? = some ')') :
    read? (a ++ c :: rest) = none := by
  unfold read?
  split
  · rfl
  · rename_i call hdrop
    obtain ⟨a', rfl, rfl⟩ := eq_append_of_dotted hc (Text.dropStart?_eq_some_iff.mp hdrop)
    have hpart : Name.isIdentifierPart c = false := by
      rw [← Bool.not_eq_true]
      intro hpart
      simp [Name.isDottedChar, Name.isWordChar_of_isIdentifierPart hpart] at hc
    split
    · rename_i arguments harguments
      rw [List.dropWhile_append] at harguments
      split at harguments
      · rw [List.dropWhile_cons_of_neg (by simp [hpart])] at harguments
        obtain ⟨hopen, rfl⟩ := List.cons.inj harguments
        obtain ⟨rest', rfl⟩ := List.head?_eq_some_iff.mp (hcall hopen)
        rfl
      · rename_i hempty
        have hopen : '(' ∈ a' := by
          cases hname : a'.dropWhile Name.isIdentifierPart with
          | nil => simp [hname] at hempty
          | cons d name =>
            rw [hname, List.cons_append] at harguments
            obtain ⟨rfl, -⟩ := List.cons.inj harguments
            exact (List.dropWhile_suffix _).subset (hname ▸ List.mem_cons_self)
        have hdotted := List.all_eq_true.mp ha '(' (List.mem_append_right _ hopen)
        exact absurd hdotted (by decide +kernel)
    · rfl

end Access

variable {constant rest : Text} {stop : Char}

theorem accesses_dotted {a : Text} (ha : a.all Name.isDottedChar)
    (hstop : Name.isDottedChar stop = false) (hcall : stop = '(' → rest.head? = some ')') :
    accesses (a ++ stop :: rest) = accesses (stop :: rest) := by
  induction a with
  | nil => rfl
  | cons c a ih =>
    have hnone := Access.read?_dotted ha hstop hcall
    rw [List.all_cons, Bool.and_eq_true] at ha
    rw [List.cons_append] at hnone ⊢
    rw [accesses, hnone, ih ha.2]
    rfl

theorem accesses_name {a : Text} (ha : a.all Name.isDottedChar)
    (hstop : Name.isDottedChar stop = false) (hcall : stop ≠ '(') :
    accesses (a ++ stop :: rest) = accesses (stop :: rest) :=
  accesses_dotted ha hstop fun h => absurd h hcall

/-- A call on the entry is one access, and nothing before its next argument is another. -/
theorem accesses_call {method : Text} (hmethod : method.all Name.isIdentifierPart)
    (hmark : '_' ∉ method) (hconstant : constant.all Name.isWordChar) (hne : constant ≠ [])
    (hstop : endsArgument stop) (hdotted : Name.isDottedChar stop = false) (hcall : stop ≠ '(') :
    accesses (Access.entryStart ++ (method ++ '(' :: (constant ++ stop :: rest))) =
      ⟨method, constant⟩ :: accesses (stop :: rest) := by
  have hargument : ∀ c ∈ constant, !endsArgument c := by
    intro c hc
    have hchar := List.all_eq_true.mp hconstant c hc
    simp only [endsArgument, Bool.not_eq_true', Bool.or_eq_false_iff, beq_eq_false_iff_ne]
    constructor <;> rintro rfl <;> exact absurd hchar (by decide +kernel)
  have hread := Access.read?_call rest hmethod hargument hne hstop
  have hstart : Access.entryStart = '_' :: ("tupleEntry." : Text) := rfl
  have hname : '_' ∉ ("tupleEntry." : Text) := by decide
  have hword := Name.all_isDottedChar_of_isWordChar hconstant
  have htail : accesses (("tupleEntry." : Text) ++ (method ++ '(' :: (constant ++ stop :: rest))) =
      accesses (stop :: rest) := by
    rw [accesses_append_of_notMem hname, accesses_append_of_notMem hmark,
      accesses_cons (by decide), accesses_name hword hdotted hcall]
  rw [hstart, List.cons_append] at hread ⊢
  rw [accesses, hread, htail]
  rfl

theorem accesses_getter_call (g : Tuple.Getter) (hconstant : constant.all Name.isWordChar)
    (hne : constant ≠ []) (rest : Text) :
    accesses (g.call constant ++ rest) = ⟨g.method, constant⟩ :: accesses rest := by
  have hmethod : g.method.all Name.isIdentifierPart ∧ '_' ∉ g.method := by
    cases g <;> decide +kernel
  have htext : g.call constant ++ rest =
      Access.entryStart ++ (g.method ++ '(' :: (constant ++ ')' :: rest)) := by
    simp [Tuple.Getter.call, Access.entryStart]
  rw [htext, accesses_call hmethod.1 hmethod.2 hconstant hne (by decide) (by decide +kernel)
    (by decide), accesses_cons (by decide)]

theorem accesses_setter_call (setter : Tuple.Setter) (hconstant : constant.all Name.isWordChar)
    (hne : constant ≠ []) (value : Text) :
    accesses (setter.call constant value) =
      ⟨setter.method, constant⟩ :: accesses (value ++ ");") := by
  have hmethod : setter.method.all Name.isIdentifierPart ∧ '_' ∉ setter.method := by
    cases setter <;> decide +kernel
  have htext : setter.call constant value =
      Access.entryStart ++ (setter.method ++ '(' :: (constant ++ ',' :: ' ' :: (value ++ ");"))) := by
    simp [Tuple.Setter.call, Access.entryStart]
  rw [htext, accesses_call hmethod.1 hmethod.2 hconstant hne (by decide) (by decide +kernel)
    (by decide), accesses_cons (by decide), accesses_cons (by decide)]

end TupleRecord.Java
