import TupleRecord.Declaration.Basic
import TupleRecord.Unicode.Printable

/-!
Writing code of the host program. Libraries do that: they say how a declaration's generics stand in
an implementation, make a literal of a text, and print tokens. So a `Quoting` is a parameter of all
that is expanded. `Quoting.standard` is such a one, which writes as those libraries do.
-/
namespace TupleRecord

namespace Expansion

/-- Tokens written as one text with a space between each two. -/
def words (text : Text) : Tokens := Text.split ' ' text

/-- Parts with commas between them, and one behind the last or not. -/
def listed : (parts : List Tokens) → (comma : Bool) → Tokens
  | [], _ => []
  | [part], comma => part ++ if comma then words "," else []
  | part :: parts, comma => part ++ words "," ++ listed parts comma

/-- Parts in angle brackets, or nothing if there are none. -/
def angled (parts : List Tokens) (comma : Bool) : Tokens :=
  if parts = [] then [] else words "<" ++ listed parts comma ++ words ">"

/-- The conditions of an implementation, or nothing if there are none. -/
def conditioned (conditions : List Tokens) (comma : Bool) : Tokens :=
  if conditions = [] then [] else words "where" ++ listed conditions comma

end Expansion

namespace Declaration

open Expansion

namespace Parameter

def name : Parameter → Text
  | lifetime _ name _ => name
  | type _ name _ _ => name
  | constant _ name _ _ => name

def attributes : Parameter → List Tokens
  | lifetime attributes _ _ => attributes
  | type attributes _ _ _ => attributes
  | constant attributes _ _ _ => attributes

/-- What stands behind the colon of a parameter, if there is one. -/
def ascription : Parameter → Option Tokens
  | lifetime _ _ bounds => bounds
  | type _ _ bounds _ => bounds
  | constant _ _ ascribed _ => some ascribed

def isLifetime : Parameter → Bool
  | lifetime .. => true
  | _ => false

/-- The parameter as an implementation binds it: without a default, and without empty bounds. -/
def bound : Parameter → Parameter
  | lifetime attributes name bounds => lifetime attributes name (bounds.filter (· ≠ []))
  | type attributes name bounds _ => type attributes name (bounds.filter (· ≠ [])) none
  | constant attributes name ascribed _ => constant attributes name ascribed none

def keyword : Parameter → Tokens
  | constant .. => words "const"
  | _ => []

def ascriptionTokens : Option Tokens → Tokens
  | some ascription => words ":" ++ ascription
  | none => []

/-- The tokens of a parameter apart from its default. -/
def tokens (p : Parameter) : Tokens :=
  (p.attributes.flatMap fun content => words "# [" ++ content ++ words "]") ++ p.keyword ++
    [p.name] ++ ascriptionTokens p.ascription

end Parameter

namespace Generics

/-- The conditions on the parameters, none if no conditions are given. -/
def conditionParts (g : Generics) : List Tokens := (g.conditions.getD {}).parts

/-- What an implementation shows of generics. Lifetimes stand first, each in the order in which it
was declared, and whether there is a comma behind the last part does not count. -/
def shown (g : Generics) : Generics where
  parameters :=
    { parts := (g.parameters.parts.filter (·.isLifetime) ++
        g.parameters.parts.filter (!·.isLifetime)).map Parameter.bound }
  conditions := if g.conditionParts = [] then none else some { parts := g.conditionParts }

end Generics
end Declaration

structure Quoting where
  print : Tokens → Text
  /-- The string literal of a text. -/
  literal : Text → Text
  /-- The generics behind `impl`. -/
  binding : Declaration.Generics → Tokens
  /-- The generics behind the name that is implemented. -/
  use : Declaration.Generics → Tokens
  /-- The conditions behind both. -/
  conditions : Declaration.Generics → Tokens

namespace Quoting

open Expansion

/-- What stands between two tokens in print. -/
def gap (a b : Text) : Text :=
  if a = "(" ∨ a = "[" ∨ b = ")" ∨ b = "]" then [] else [' ']

def standardPrint : Tokens → Text
  | [] => []
  | [token] => token
  | a :: b :: rest => a ++ gap a b ++ standardPrint (b :: rest)

/-- A character by its code point. -/
def escapeCode (c : Char) : Text := "\\u\x7b" ++ Nat.toDigits 16 c.toNat ++ "\x7d"

def isOctalDigit (c : Char) : Bool := '0' ≤ c && c ≤ '7'

/-- A character of a string literal before `next`. The short form of the null character would
read together with a digit behind it. -/
def escapeChar (c : Char) (next : Option Char) : Text :=
  if c = '\x00' then if next.any isOctalDigit then "\\x00" else "\\0"
  else if c = '\t' then "\\t"
  else if c = '\r' then "\\r"
  else if c = '\n' then "\\n"
  else if c = '\\' then "\\\\"
  else if c = '"' then "\\\""
  else if Unicode.isPlain c then [c]
  else escapeCode c

def escape : Text → Text
  | [] => []
  | c :: rest => escapeChar c rest.head? ++ escape rest

/-- A lifetime that is declared last moves to the front, and leaves its comma behind. -/
def keepsComma (parameters : Declaration.Separated Declaration.Parameter) : Bool :=
  parameters.comma ||
    parameters.parts.getLast?.any (·.isLifetime) && parameters.parts.any (!·.isLifetime)

def standard : Quoting where
  print := standardPrint
  literal text := '"' :: (escape text ++ ['"'])
  binding g :=
    angled (g.shown.parameters.parts.map Declaration.Parameter.tokens) (keepsComma g.parameters)
  use g := angled (g.shown.parameters.parts.map fun p => [p.name]) (keepsComma g.parameters)
  conditions g := conditioned g.conditionParts (g.conditions.any (·.comma))

end Quoting
end TupleRecord
