import TupleRecord.Declaration.AttributeReader

/-!
What is relied on of a reader of attributes, as its library documents it: arguments are read in
order up to the first that fails, with a comma between each two. `AttributeReader.standard` meets
it.
-/
namespace TupleRecord.Declaration

/-- Holds of a part of the arguments of an attribute, between commas, that ends where a name or a
text must follow. The message is then about the end of the attribute, if the part is the last. -/
def breaksOff : List ArgumentToken → Bool
  | [] | [.unfinished _] | [.key _, .equals] => true
  | _ => false

namespace AttributeReader

section

variable (r : AttributeReader) {σ : Type} (effect : σ → Text → Except Error (Effect σ))

/-- Takes the argument of a key, and leaves the tokens behind it. -/
def apply (found : σ) (key : Text) (tokens : List ArgumentToken) :
    Except Error (σ × List ArgumentToken) := do
  match ← effect found key with
  | .mark found => return (found, tokens)
  | .text set =>
    let (value, rest) ← (r.text tokens).mapError .unreadable
    return (set value, rest)

/-- Goes on behind an argument. -/
def resume : σ × List ArgumentToken → Except Error σ
  | (found, []) => .ok found
  | (found, .comma :: tokens) => r.read effect found (.arguments tokens)
  | (_, _ :: _) => .error (.unreadable r.expectedComma)

end

/-- What is relied on of a reader. The messages are its own, but do not depend on what follows the
token at fault. Only where an attribute ends too early they may be others. -/
structure Lawful (r : AttributeReader) : Prop where
  empty {σ : Type} (effect : σ → Text → Except Error (Effect σ)) (found : σ) :
    r.read effect found (.arguments []) = .ok found
  key {σ : Type} (effect : σ → Text → Except Error (Effect σ)) (found : σ) (key : Text)
    (tokens : List ArgumentToken) :
    r.read effect found (.arguments (.key key :: tokens)) =
      r.apply effect found key tokens >>= r.resume effect
  notKey (part : List ArgumentToken) (hkey : ∀ key tokens, part ≠ .key key :: tokens)
    (hcomplete : breaksOff part = false) :
    ∃ message, ∀ {σ : Type} (effect : σ → Text → Except Error (Effect σ)) (found : σ)
      (more : List ArgumentToken),
      r.read effect found (.arguments (part ++ more)) = .error (.unreadable message)
  unfinished (path : Text) :
    ∃ message, ∀ {σ : Type} (effect : σ → Text → Except Error (Effect σ)) (found : σ),
      r.read effect found (.arguments [.unfinished path]) = .error (.unreadable message)
  unparenthesized (form : AttributeForm) (hform : ∀ tokens, form ≠ .arguments tokens) :
    ∃ message, ∀ {σ : Type} (effect : σ → Text → Except Error (Effect σ)) (found : σ),
      r.read effect found form = .error (.unreadable message)
  text (value : Text) (rest : List ArgumentToken) :
    r.text (.equals :: .text value :: rest) = .ok (value, rest)
  notText : ∃ message, ∀ (token : ArgumentToken) (rest : List ArgumentToken),
    (∀ value, token ≠ .text value) → r.text (.equals :: token :: rest) = .error message
  noText : ∃ message, r.text [.equals] = .error message
  noSign : ∃ message, ∀ tokens : List ArgumentToken,
    tokens.head? ≠ some .equals → r.text tokens = .error message

section

variable {σ : Type} (effect : σ → Text → Except Error (Effect σ))

theorem standardRead_comma (found : σ) (tokens : List ArgumentToken) :
    standardRead effect (.comma found) tokens = standard.resume effect (found, tokens) := by
  rcases tokens with _ | ⟨token, tokens⟩
  · rfl
  · cases token <;> rfl

theorem standardRead_sign (set : Text → σ) (tokens : List ArgumentToken) :
    standardRead effect (.sign set) tokens = (do
      let (value, rest) ← (standard.text tokens).mapError .unreadable
      standard.resume effect (set value, rest)) := by
  rcases tokens with _ | ⟨sign, tokens⟩
  · rfl
  cases sign with
  | equals =>
    rcases tokens with _ | ⟨token, tokens⟩
    · rfl
    cases token with
    | text value => exact standardRead_comma effect (set value) tokens
    | _ => rfl
  | _ => rfl

end

theorem expectedName_append (path : Text) {tokens : List ArgumentToken} (h : tokens ≠ [])
    (more : List ArgumentToken) :
    expectedName path (tokens ++ more) = expectedName path tokens := by
  cases tokens with
  | nil => exact absurd rfl h
  | cons token tokens => cases token <;> rfl

theorem standard_lawful : standard.Lawful where
  empty _ _ := rfl
  key effect found key tokens := by
    have hread : standard.read effect found (.arguments (.key key :: tokens)) =
      standardRead effect (.key found) (.key key :: tokens) := rfl
    rw [hread, standardRead, apply]
    cases effect found key with
    | error e => rfl
    | ok e =>
      cases e with
      | mark found => exact standardRead_comma effect found tokens
      | text set =>
        refine (standardRead_sign effect set tokens).trans ?_
        cases (standard.text tokens).mapError Error.unreadable <;> rfl
  notKey part hkey hcomplete := by
    cases part with
    | nil => cases hcomplete
    | cons token tokens =>
      cases token with
      | key path => exact absurd rfl (hkey path tokens)
      | unfinished path =>
        have htokens : tokens ≠ [] := by
          rintro rfl
          cases hcomplete
        refine ⟨expectedName path tokens, fun _ _ more => ?_⟩
        rw [← expectedName_append path htokens more]
        rfl
      | _ => exact ⟨_, fun _ _ _ => rfl⟩
  unfinished _ := ⟨_, fun _ _ => rfl⟩
  unparenthesized form hform := by
    cases form with
    | bare => exact ⟨_, fun _ _ => rfl⟩
    | value tokens => exact ⟨_, fun _ _ => rfl⟩
    | arguments tokens => exact absurd rfl (hform tokens)
  text _ _ := rfl
  notText := by
    refine ⟨"expected string literal", fun token rest htext => ?_⟩
    cases token with
    | text value => exact absurd rfl (htext value)
    | _ => rfl
  noText := ⟨_, rfl⟩
  noSign := by
    refine ⟨"expected `=`", fun tokens hsign => ?_⟩
    rcases tokens with _ | ⟨token, tokens⟩
    · rfl
    cases token with
    | equals => exact absurd rfl hsign
    | _ => rfl

end AttributeReader
end TupleRecord.Declaration
