import TupleRecord.Declaration.Expansion
import TupleRecord.Proofs.Expansion.Quoted

/-!
The tokens of a printed implementation. Its compiler cuts the text into tokens again: a `Tokenizer`
is a parameter, as a `Quoting` is, and here is what is relied on of both. Tokens are printed with
spaces between them, and tokens with spaces between them are cut into themselves.
-/
namespace TupleRecord

/-- How a compiler of the host program cuts a text. -/
structure Tokenizer where
  IsToken : Text → Prop
  cut : Text → Option Tokens

namespace Expansion

/-- A text in which tokens follow each other with a space between each two. It may be missing inside
round and square brackets at their ends. -/
inductive Spaced : Tokens → Text → Prop where
  | nil : Spaced [] []
  | single (token : Text) : Spaced [token] token
  | space (token : Text) {next : Text} {rest : Tokens} {text : Text}
      (h : Spaced (next :: rest) text) : Spaced (token :: next :: rest) (token ++ ' ' :: text)
  | opening (token : Text) (htoken : token = "(" ∨ token = "[") {next : Text} {rest : Tokens}
      {text : Text} (h : Spaced (next :: rest) text) :
      Spaced (token :: next :: rest) (token ++ text)
  | closing (token next : Text) (hnext : next = ")" ∨ next = "]") {rest : Tokens} {text : Text}
      (h : Spaced (next :: rest) text) : Spaced (token :: next :: rest) (token ++ text)

theorem Spaced.exists_eq_append {token : Text} {tokens : Tokens} {text : Text}
    (h : Spaced (token :: tokens) text) : ∃ after, text = token ++ after := by
  cases h with
  | single => exact ⟨[], (List.append_nil token).symm⟩
  | space | opening | closing => exact ⟨_, rfl⟩

/-- Holds of a keyword, and of an identifier in ASCII without digits. -/
def isWord (token : Text) : Bool := token ≠ [] && token.all fun c => c.isAlpha || c == '_'

/-- The punctuation of an implementation. -/
def punctuation : List Text :=
  ["::", "->", ":", "(", ")", "[", "]", "<", ">", ",", ";", ".", "=", "#", "\x7b", "\x7d"]

end Expansion

open Expansion

namespace Tokenizer

/-- What is relied on of a tokenizer. -/
structure Lawful (c : Tokenizer) : Prop where
  word {token : Text} (h : isWord token) : c.IsToken token
  punctuation {token : Text} (h : token ∈ Expansion.punctuation) : c.IsToken token
  cut {tokens : Tokens} {text : Text} (htokens : ∀ token ∈ tokens, c.IsToken token)
    (h : Spaced tokens text) : c.cut text = some tokens

/-- Holds of tokens that the compiler can tell apart. -/
def Lexed (c : Tokenizer) (tokens : Tokens) : Prop := ∀ token ∈ tokens, c.IsToken token

end Tokenizer

/-- What is relied on of the libraries that write code, for a compiler that reads it. Where generics
stand their parts are listed as parts are, but whether a comma follows the last is left open. -/
structure Quoting.Lawful (q : Quoting) (c : Tokenizer) : Prop where
  print (tokens : Tokens) : Spaced tokens (q.print tokens)
  isToken_literal (text : Text) : c.IsToken (q.literal text)
  literalValue?_literal (text : Text) : literalValue? (q.literal text) = some text
  binding (g : Declaration.Generics) : ∃ comma, q.binding g =
    angled (g.shown.parameters.parts.map Declaration.Parameter.tokens) comma
  use (g : Declaration.Generics) : ∃ comma, q.use g =
    angled (g.shown.parameters.parts.map fun p => [p.name]) comma
  conditions (g : Declaration.Generics) :
    ∃ comma, q.conditions g = conditioned g.conditionParts comma

/-! ### Tokens that can be told apart -/

namespace Tokenizer

variable {c : Tokenizer}

theorem Lexed.append {a b : Tokens} (ha : c.Lexed a) (hb : c.Lexed b) : c.Lexed (a ++ b) :=
  List.forall_mem_append.mpr ⟨ha, hb⟩

variable (hc : c.Lawful)

include hc

end Tokenizer

/-! ### The standard libraries -/

namespace Quoting

theorem standardPrint_spaced (tokens : Tokens) : Spaced tokens (standardPrint tokens) := by
  fun_induction standardPrint tokens with
  | case1 => exact .nil
  | case2 token => exact .single token
  | case3 a b rest ih =>
    unfold gap
    split_ifs with hgap
    · rw [List.append_nil]
      obtain hround | hsquare | hround | hsquare := hgap
      · exact .opening a (.inl hround) ih
      · exact .opening a (.inr hsquare) ih
      · exact .closing a b (.inl hround) ih
      · exact .closing a b (.inr hsquare) ih
    · rw [List.append_assoc, List.singleton_append]
      exact .space a ih

end Quoting

namespace Tokenizer

def isBracket (c : Char) : Bool := c == '(' || c == ')' || c == '[' || c == ']'

/-- The characters of the tokens that are neither literals nor brackets. -/
def isTokenChar (c : Char) : Bool := c ≠ ' ' && c ≠ '"' && !isBracket c

/-- The first token of a text that does not begin with a space, and what follows it. -/
def nextToken? : Text → Option (Text × Text)
  | [] => none
  | '"' :: rest => (Quoting.readQuoted? rest).map fun (_, after) =>
      ('"' :: rest.take (rest.length - after.length), after)
  | c :: rest =>
    if isBracket c then some ([c], rest)
    else some ((c :: rest).takeWhile isTokenChar, (c :: rest).dropWhile isTokenChar)

/-- The tokens of a text. -/
def tokenize? : Text → Option Tokens
  | [] => some []
  | c :: rest =>
    if c = ' ' then tokenize? rest
    else
      match nextToken? (c :: rest) with
      | some (token, after) =>
        if after.length < (c :: rest).length then (tokenize? after).map (token :: ·) else none
      | none => none
termination_by text => text.length
decreasing_by
  · exact Nat.lt_succ_self rest.length
  · assumption

inductive StandardToken : Text → Prop where
  | bracket {c : Char} (h : isBracket c) : StandardToken [c]
  | run {token : Text} (hne : token ≠ []) (h : token.all isTokenChar) : StandardToken token
  | literal (value : Text) : StandardToken (Quoting.standard.literal value)

/-- A tokenizer that relies on the spaces between tokens. -/
def standard : Tokenizer where
  IsToken := StandardToken
  cut := tokenize?

/-- Holds of a text that does not go on with characters of the token before it. -/
def Ends (rest : Text) : Prop := ∀ c ∈ rest.head?, isTokenChar c = false

theorem nextToken?_bracket {c : Char} (h : isBracket c) (rest : Text) :
    nextToken? (c :: rest) = some ([c], rest) := by
  have hquote : c ≠ '"' := by
    rintro rfl
    cases h
  unfold nextToken?
  split <;> simp_all

theorem nextToken?_run {token rest : Text} (hne : token ≠ []) (h : token.all isTokenChar)
    (hrest : Ends rest) : nextToken? (token ++ rest) = some (token, rest) := by
  rw [List.all_eq_true] at h
  have hcut : (token ++ rest).takeWhile isTokenChar = token ∧
      (token ++ rest).dropWhile isTokenChar = rest := by
    rw [List.takeWhile_append_of_pos h, List.dropWhile_append_of_pos h]
    cases rest with
    | nil => simp
    | cons c rest => simp [hrest c rfl]
  obtain ⟨c, token, rfl⟩ := List.exists_cons_of_ne_nil hne
  have hc : isTokenChar c := h c List.mem_cons_self
  have hquote : c ≠ '"' := by
    rintro rfl
    cases hc
  have hbracket : isBracket c = false := by
    unfold isTokenChar at hc
    simp_all
  rw [List.cons_append] at hcut ⊢
  unfold nextToken?
  split <;> simp_all

theorem nextToken?_literal (value rest : Text) :
    nextToken? (Quoting.standard.literal value ++ rest) =
      some (Quoting.standard.literal value, rest) := by
  have htext : Quoting.standard.literal value ++ rest =
      '"' :: (Quoting.escape value ++ '"' :: rest) := by
    simp [Quoting.standard]
  have hbody : (Quoting.escape value ++ '"' :: rest).take
      ((Quoting.escape value ++ '"' :: rest).length - rest.length) =
        Quoting.escape value ++ ['"'] := by
    have hsplit : Quoting.escape value ++ '"' :: rest = (Quoting.escape value ++ ['"']) ++ rest := by
      simp
    rw [hsplit, List.length_append, Nat.add_sub_cancel, List.take_left]
  rw [htext, nextToken?, Quoting.readQuoted?_escape, Option.map_some]
  simp only [hbody]
  rfl

namespace StandardToken

variable {token : Text}

theorem nextToken? (h : StandardToken token) {rest : Text} (hrest : Ends rest) :
    nextToken? (token ++ rest) = some (token, rest) := by
  cases h with
  | bracket h => exact nextToken?_bracket h rest
  | run hne h => exact nextToken?_run hne h hrest
  | literal value => exact nextToken?_literal value rest

/-- A token begins with a character that is no space. -/
theorem exists_eq_cons (h : StandardToken token) : ∃ c rest, token = c :: rest ∧ c ≠ ' ' := by
  cases h with
  | bracket h =>
    refine ⟨_, [], rfl, ?_⟩
    rintro rfl
    cases h
  | run hne h =>
    obtain ⟨c, rest, rfl⟩ := List.exists_cons_of_ne_nil hne
    refine ⟨c, rest, rfl, ?_⟩
    rintro rfl
    cases h
  | literal value => exact ⟨_, _, rfl, by decide⟩

/-- A token that is read first does not hide the others. -/
theorem tokenize?_append (h : StandardToken token) {rest : Text}
    (hnext : Tokenizer.nextToken? (token ++ rest) = some (token, rest)) :
    tokenize? (token ++ rest) = (tokenize? rest).map (token :: ·) := by
  obtain ⟨c, tail, rfl, hc⟩ := h.exists_eq_cons
  rw [List.cons_append] at hnext ⊢
  have hshorter : rest.length < (c :: (tail ++ rest)).length := by
    simp only [List.length_cons, List.length_append]
    omega
  rw [tokenize?, if_neg hc, hnext]
  exact if_pos hshorter

end StandardToken

theorem tokenize?_space (rest : Text) : tokenize? (' ' :: rest) = tokenize? rest := by
  rw [tokenize?, if_pos rfl]

/-- Tokens with spaces between them are cut into themselves. A bracket ends by itself, and so does
what stands before a closing one. -/
theorem tokenize?_spaced {tokens : Tokens} {text : Text}
    (htokens : ∀ token ∈ tokens, StandardToken token) (h : Spaced tokens text) :
    tokenize? text = some tokens := by
  induction h with
  | nil => rw [tokenize?]
  | single token =>
    have htoken := htokens token List.mem_cons_self
    have hends : Ends [] := nofun
    have hread := htoken.tokenize?_append (htoken.nextToken? hends)
    rw [List.append_nil] at hread
    rw [hread, tokenize?]
    rfl
  | space token h ih =>
    obtain ⟨htoken, hrest⟩ := List.forall_mem_cons.mp htokens
    rw [htoken.tokenize?_append (htoken.nextToken? (by simp [Ends, isTokenChar])), tokenize?_space,
      ih hrest]
    rfl
  | opening token hopening h ih =>
    obtain ⟨htoken, hrest⟩ := List.forall_mem_cons.mp htokens
    have hnext (rest : Text) : nextToken? (token ++ rest) = some (token, rest) := by
      obtain rfl | rfl := hopening <;> exact nextToken?_bracket rfl rest
    rw [htoken.tokenize?_append (hnext _), ih hrest]
    rfl
  | closing token next hclosing h ih =>
    obtain ⟨htoken, hrest⟩ := List.forall_mem_cons.mp htokens
    obtain ⟨after, rfl⟩ := h.exists_eq_append
    have hends : Ends (next ++ after) := by
      obtain rfl | rfl := hclosing <;> simp [Ends, isTokenChar, isBracket]
    rw [htoken.tokenize?_append (htoken.nextToken? hends), ih hrest]
    rfl

theorem isTokenChar_of_word {c : Char} (h : c.isAlpha || c == '_') : isTokenChar c := by
  have hne (d : Char) (hd : (d.isAlpha || d == '_') = false) : c ≠ d := by
    rintro rfl
    cases h.symm.trans hd
  simp [isTokenChar, isBracket, hne ' ' rfl, hne '"' rfl, hne '(' rfl, hne ')' rfl, hne '[' rfl,
    hne ']' rfl]

theorem standard_lawful : standard.Lawful where
  word h := by
    simp only [isWord, Bool.and_eq_true, decide_eq_true_eq, List.all_eq_true] at h
    exact .run h.1 (List.all_eq_true.mpr fun c hc => isTokenChar_of_word (h.2 c hc))
  punctuation h := by
    simp only [Expansion.punctuation, List.mem_cons, List.not_mem_nil, or_false] at h
    rcases h with h | h | h | h | h | h | h | h | h | h | h | h | h | h | h | h <;> subst h <;> first
      | exact .run (by decide) (by decide)
      | exact .bracket rfl
  cut := tokenize?_spaced

end Tokenizer

theorem Quoting.standard_lawful : Quoting.standard.Lawful Tokenizer.standard where
  print := standardPrint_spaced
  isToken_literal := .literal
  literalValue?_literal := Quoting.literalValue?_literal
  binding _ := ⟨_, rfl⟩
  use _ := ⟨_, rfl⟩
  conditions _ := ⟨_, rfl⟩

end TupleRecord
