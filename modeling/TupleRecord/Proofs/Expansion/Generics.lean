import TupleRecord.Proofs.Expansion.Reader
import TupleRecord.Proofs.Expansion.Token

/-!
The generics of an implementation. What a declaration binds is read back, parameter by parameter
with bounds and attributes, as far as an implementation shows it: `Generics.shown`. Types, bounds
and conditions are not taken apart. All that has to hold of them is that they end where a parser
ends them.
-/
namespace TupleRecord

namespace Declaration

open Expansion

/-- Holds of an identifier, raw or not, and of a keyword. -/
def isName (token : Text) : Bool :=
  token.head?.any fun c => c.isAlpha || c == '_' || 128 ≤ c.toNat

def isLifetimeName (token : Text) : Bool := token.head? == some '\''

/-- Holds of a parameter that has a name of its kind. -/
def Parameter.IsNamed : Parameter → Prop
  | lifetime _ name _ => isLifetimeName name
  | type _ name _ _ => isName name ∧ name ≠ "const"
  | constant _ name _ _ => isName name

/-- What holds of every parameter that is parsed. -/
structure Parameter.WellFormed (c : Tokenizer) (p : Parameter) : Prop where
  lexed : c.Lexed p.tokens
  named : p.IsNamed
  attributes : ∀ content ∈ p.attributes, Delimited (words "]") content
  ascription : ∀ ascription ∈ p.ascription, Delimited (words ", >") ascription

/-- What holds of every condition that is parsed. -/
structure Condition.WellFormed (c : Tokenizer) (condition : Tokens) : Prop where
  lexed : c.Lexed condition
  ne_nil : condition ≠ []
  delimited : Delimited (words ", \x7b") condition

structure Generics.WellFormed (c : Tokenizer) (g : Generics) : Prop where
  parameters : ∀ p ∈ g.parameters.parts, p.WellFormed c
  conditions : ∀ condition ∈ g.conditionParts, Condition.WellFormed c condition

namespace Parameter

variable {c : Tokenizer} {p : Parameter}

@[simp] theorem attributes_bound (p : Parameter) : p.bound.attributes = p.attributes := by
  cases p <;> rfl

@[simp] theorem keyword_bound (p : Parameter) : p.bound.keyword = p.keyword := by
  cases p <;> rfl

@[simp] theorem name_bound (p : Parameter) : p.bound.name = p.name := by
  cases p <;> rfl

theorem mem_ascription_of_bound {ascription : Tokens} (h : ascription ∈ p.bound.ascription) :
    ascription ∈ p.ascription := by
  cases p with
  | lifetime attributes name bounds => exact (Option.mem_filter_iff.mp h).1
  | type attributes name bounds default => exact (Option.mem_filter_iff.mp h).1
  | constant attributes name type default => exact h

theorem tokens_bound_subset (p : Parameter) : p.bound.tokens ⊆ p.tokens := by
  unfold tokens
  rw [attributes_bound, keyword_bound, name_bound]
  refine List.append_subset.mpr ⟨List.subset_append_left _ _, ?_⟩
  cases h : p.bound.ascription with
  | none => exact List.nil_subset _
  | some ascription =>
    rw [mem_ascription_of_bound h]
    exact List.subset_append_right _ _

theorem WellFormed.bound (h : p.WellFormed c) : p.bound.WellFormed c where
  lexed token htoken := h.lexed token (p.tokens_bound_subset htoken)
  named := by
    have hnamed := h.named
    cases p <;> exact hnamed
  attributes := by
    rw [attributes_bound]
    exact h.attributes
  ascription ascription hascription := h.ascription ascription (mem_ascription_of_bound hascription)

end Parameter

end Declaration

namespace Expansion

open Declaration

namespace Reader

/-- What is in the brackets of an attribute. -/
def content : Reader Tokens := do
  expect (words "# [")
  let content ← upTo (words "]")
  expect (words "]")
  return content

def ascription : Reader Tokens := do
  expect (words ":")
  upTo (words ", >")

/-- A name of any kind, or a keyword. -/
def name : Reader Text :=
  token fun token => if isName token ∨ isLifetimeName token then some token else none

def parameter : Reader Parameter := do
  let attributes ← many content
  let first ← name
  if first = "const" then
    let name ← name
    return .constant attributes name (← ascription) none
  else if isLifetimeName first then
    return .lifetime attributes first (← optional ascription)
  else
    return .type attributes first (← optional ascription) none

/-- A list in angle brackets, if there is one. -/
def angles {α : Type} (p : Reader α) : Reader (List α) := do
  let values ← optional do
    expect (words "<")
    let values ← many (part p)
    expect (words ">")
    return values
  return values.getD []

def condition : Reader Tokens := do
  let condition ← upTo (words ", \x7b")
  guard (condition ≠ [])
  return condition

def conditions : Reader (List Tokens) := do
  let values ← optional do
    expect (words "where")
    many (part condition)
  return values.getD []

variable {rest : Tokens}

end Reader

section

variable {c : Tokenizer} (hc : c.Lawful) {g : Generics} (h : g.WellFormed c) (comma : Bool)

include hc h

end

end Expansion
end TupleRecord
