import Mathlib.Data.List.Infix
import TupleRecord.Declaration.Expansion

/-!
Reading tokens from the front. `Expansion.Reads` says what a reader makes of tokens, whatever stands
behind them; readers are built up with the tokens that they read. Where what is read is not taken
apart, it goes up to a token that ends it, outside brackets.
-/
namespace TupleRecord.Expansion

/-- Reads something from the tokens in front. -/
abbrev Reader (α : Type) := StateT Tokens Option α

/-- How deep a token stands in brackets. In groups angles do not count, as they may be other signs
there. -/
structure Depth where
  groups : Nat := 0
  angles : Nat := 0
  deriving DecidableEq, Repr

namespace Depth

def after (d : Depth) (token : Text) : Depth :=
  if token = "(" ∨ token = "[" ∨ token = "\x7b" then { d with groups := d.groups + 1 }
  else if token = ")" ∨ token = "]" ∨ token = "\x7d" then { d with groups := d.groups - 1 }
  else if d.groups ≠ 0 then d
  else if token = "<" then { d with angles := d.angles + 1 }
  else if token = ">" then { d with angles := d.angles - 1 }
  else d

/-- Holds of one of `ends` outside brackets. What is in square brackets itself ends with them, and
need not be a type. -/
def Stops (d : Depth) (ends : List Text) (token : Text) : Prop :=
  token ∈ ends ∧ d.groups = 0 ∧ (token = "]" ∨ d.angles = 0)

instance (d : Depth) (ends : List Text) (token : Text) : Decidable (d.Stops ends token) :=
  inferInstanceAs (Decidable (token ∈ ends ∧ d.groups = 0 ∧ (token = "]" ∨ d.angles = 0)))

/-- Cuts tokens before the first that stops. -/
def cut (ends : List Text) : Depth → Tokens → Tokens × Tokens
  | _, [] => ([], [])
  | d, token :: rest =>
    if d.Stops ends token then ([], token :: rest)
    else (token :: (cut ends (d.after token) rest).1, (cut ends (d.after token) rest).2)

/-- The depth behind tokens of which none stops. -/
def behind? (ends : List Text) : Depth → Tokens → Option Depth
  | d, [] => some d
  | d, token :: rest => if d.Stops ends token then none else behind? ends (d.after token) rest

end Depth

/-- Holds of tokens that each of `ends` ends, and nothing in them does. -/
def Delimited (ends : List Text) (tokens : Tokens) : Prop :=
  ∃ d, Depth.behind? ends {} tokens = some d ∧ ∀ token ∈ ends, d.Stops ends token

namespace Reader

/-- Reads one token as what `f` makes of it. -/
def token {α : Type} (f : Text → Option α) : Reader α := fun tokens =>
  match tokens with
  | [] => none
  | first :: rest => (f first).map fun value => (value, rest)

/-- Reads one of some names. -/
def oneOf {α : Type} (names : List (Text × α)) : Reader α := token fun name => names.lookup name

/-- Reads over tokens that have to be there. -/
def expect (start : Tokens) : Reader Unit := fun tokens =>
  (tokens.dropPrefix? start).map fun rest => ((), rest)

/-- Reads the tokens up to one that ends them. -/
def upTo (ends : List Text) : Reader Tokens := fun tokens => some (Depth.cut ends {} tokens)

/-- Reads as often as it can. -/
def many {α : Type} (p : Reader α) : Reader (List α) := fun tokens =>
  match p tokens with
  | some (value, rest) =>
    if rest.length < tokens.length then
      (many p rest).map fun (values, rest) => (value :: values, rest)
    else none
  | none => some ([], tokens)
termination_by tokens => tokens.length

def parens {α : Type} (p : Reader α) : Reader α := do
  expect (words "(")
  let value ← p
  expect (words ")")
  return value

/-- Two arguments. -/
def pair {α β : Type} (p : Reader α) (q : Reader β) : Reader (α × β) := do
  let first ← p
  expect (words ",")
  return (first, ← q)

/-- A part of a list, with the comma behind it if there is one. -/
def part {α : Type} (p : Reader α) : Reader α := do
  let value ← p
  let _ ← optional (expect (words ","))
  return value

/-- Reads `tokens`, in front of `rest`, as `value`. -/
def Reads {α : Type} (p : Reader α) (tokens : Tokens) (value : α) (rest : Tokens) : Prop :=
  p (tokens ++ rest) = some (value, rest)

section

variable {α β : Type} {p : Reader α} {f : α → Reader β} {tokens tokens' rest : Tokens} {value : α}

theorem reads_pure (value : α) (rest : Tokens) : Reads (pure value) [] value rest := rfl

theorem Reads.bind {result : β} (h : Reads p tokens value (tokens' ++ rest))
    (h' : Reads (f value) tokens' result rest) :
    Reads (p >>= f) (tokens ++ tokens') result rest := by
  unfold Reads at h h' ⊢
  rw [List.append_assoc]
  show (p (tokens ++ (tokens' ++ rest)) >>= fun (a, s) => f a s) = _
  rw [h]
  exact h'

/-- What is made of a value that was read last. -/
theorem Reads.map (h : Reads p tokens value rest) (g : α → β) :
    Reads (p >>= fun a => pure (g a)) tokens (g value) rest := by
  have hpure := reads_pure (g value) rest
  rw [← List.append_nil tokens]
  exact Reads.bind h hpure

theorem reads_expect (tokens rest : Tokens) : Reads (expect tokens) tokens () rest := by
  unfold Reads expect
  rw [List.dropPrefix?_append_of_beq rest (beq_self_eq_true tokens)]
  rfl

theorem Reads.parens {parts : List Tokens}
    (h : Reads p (listed parts false) value (words ")" ++ rest)) :
    Reads (Reader.parens p) (call parts) value rest := by
  unfold call
  rw [List.append_assoc]
  exact (reads_expect _ _).bind (h.bind ((reads_expect _ _).map _))

/-- A single argument has no comma. -/
theorem Reads.argument (h : Reads p tokens value (words ")" ++ rest)) :
    Reads (Reader.parens p) (call [tokens]) value rest := by
  rw [← List.append_nil tokens] at h
  exact Reads.parens h

theorem Reads.pair {q : Reader β} {value' : β}
    (h : Reads p tokens value (words "," ++ tokens' ++ rest)) (h' : Reads q tokens' value' rest) :
    Reads (Reader.pair p q) (listed [tokens, tokens'] false) (value, value') rest := by
  have hlist : listed [tokens, tokens'] false = tokens ++ (words "," ++ tokens') := by
    simp [listed]
  rw [hlist]
  exact h.bind ((reads_expect _ _).bind (h'.map _))

end

end Reader
end TupleRecord.Expansion
