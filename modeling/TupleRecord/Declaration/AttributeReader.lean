import TupleRecord.Declaration.Error

/-!
Reading the arguments of an attribute. A library does that, so its reader is a parameter of all that
is read from attributes. `AttributeReader.standard` is such a reader, with the library's messages.
-/
namespace TupleRecord.Declaration

/-- What a key does to what was found so far: it is enough by itself, or has to be set to a text. -/
inductive Effect (σ : Type) where
  | mark (found : σ)
  | text (set : Text → σ)

structure AttributeReader where
  /-- Reads an attribute, from what was found before it. -/
  read {σ : Type} (effect : σ → Text → Except Error (Effect σ)) (found : σ)
    (form : AttributeForm) : Except Error σ
  /-- The text that a key before these tokens is set to, and what follows it. -/
  text (tokens : List ArgumentToken) : Except Text (Text × List ArgumentToken)
  /-- The message for anything but a comma behind an argument. -/
  expectedComma : Text

namespace AttributeReader

/-- What comes next in the arguments of an attribute. -/
inductive Next (σ : Type) where
  | key (found : σ)
  | sign (set : Text → σ)
  | text (set : Text → σ)
  | comma (found : σ)

/-- The message for a path that breaks off before these tokens. -/
def expectedName (path : Text) (tokens : List ArgumentToken) : Text :=
  if path = "::" then
    match tokens with
    | [] => "unexpected end of input, expected nested attribute"
    | .text _ :: _ | .literal _ :: _ => "unexpected literal in nested attribute, expected ident"
    | _ :: _ => "unexpected token in nested attribute, expected ident"
  else if tokens = [] then "unexpected end of input, expected ident"
  else "expected ident"

def standardRead {σ : Type} (effect : σ → Text → Except Error (Effect σ)) :
    Next σ → List ArgumentToken → Except Error σ
  | .key found, [] => .ok found
  | .key found, .key key :: tokens =>
    match effect found key with
    | .ok (.mark found) => standardRead effect (.comma found) tokens
    | .ok (.text set) => standardRead effect (.sign set) tokens
    | .error e => .error e
  | .key _, .unfinished path :: tokens => .error (.unreadable (expectedName path tokens))
  | .key _, .text _ :: _ | .key _, .literal _ :: _ =>
    .error (.unreadable "unexpected literal in nested attribute, expected ident")
  | .key _, _ :: _ =>
    .error (.unreadable "unexpected token in nested attribute, expected ident")
  | .sign set, .equals :: tokens => standardRead effect (.text set) tokens
  | .sign _, _ => .error (.unreadable "expected `=`")
  | .text set, .text value :: tokens => standardRead effect (.comma (set value)) tokens
  | .text _, _ :: _ => .error (.unreadable "expected string literal")
  | .text _, [] =>
    .error (.unreadable "unexpected end of input, expected string literal")
  | .comma found, [] => .ok found
  | .comma found, .comma :: tokens => standardRead effect (.key found) tokens
  | .comma _, _ :: _ => .error (.unreadable "expected `,`")

def standardText : List ArgumentToken → Except Text (Text × List ArgumentToken)
  | .equals :: .text value :: tokens => .ok (value, tokens)
  | .equals :: _ :: _ => .error "expected string literal"
  | [.equals] => .error "unexpected end of input, expected string literal"
  | _ => .error "expected `=`"

def standard : AttributeReader where
  read effect found
    | .bare =>
      .error (.unreadable "expected attribute arguments in parentheses: #[datum(...)]")
    | .value _ => .error (.unreadable "expected parentheses: #[datum(...)]")
    | .arguments tokens => standardRead effect (.key found) tokens
  text := standardText
  expectedComma := "expected `,`"

end AttributeReader
end TupleRecord.Declaration
