import TupleRecord.Declaration.Attributes
import TupleRecord.Proofs.Declaration.AttributeReader
import TupleRecord.Proofs.Template.Validity

/-!
The arguments of attributes, apart from how attributes group them. An argument is a part between
commas that does not break off, whether it makes sense or not. Where a part does break off, or a
comma has none before it, what is left of its attribute is a remainder: which message it has may
depend on where the attribute ends. A reader reads piece by piece, and never past a remainder.
-/
namespace TupleRecord.Declaration

structure Argument where
  tokens : List ArgumentToken
  noComma : .comma ∉ tokens
  complete : breaksOff tokens = false
  deriving DecidableEq, Repr

theorem Argument.beginsWithKey_or (a : Argument) :
    (∃ key rest, a.tokens = .key key :: rest ∧ .comma ∉ rest ∧ rest ≠ [.equals]) ∨
      ∀ key rest, a.tokens ≠ .key key :: rest := by
  obtain ⟨tokens, hcomma, hcomplete⟩ := a
  rcases tokens with _ | ⟨token, rest⟩
  · exact .inr nofun
  · cases token with
    | key key =>
      refine .inl ⟨key, rest, rfl, by simpa using hcomma, ?_⟩
      rintro rfl
      cases hcomplete
    | _ => exact .inr nofun

inductive Piece where
  | argument (a : Argument)
  | remainder (tokens : List ArgumentToken)
  deriving DecidableEq, Repr

namespace Piece

def tokens : Piece → List ArgumentToken
  | argument a => a.tokens
  | remainder tokens => tokens

def argument? : Piece → Option Argument
  | argument a => some a
  | remainder _ => none

end Piece

/-- The tokens before the first comma. -/
def beforeComma (tokens : List ArgumentToken) : List ArgumentToken :=
  tokens.takeWhile (· != .comma)

/-- The tokens behind the first comma. -/
def behindComma (tokens : List ArgumentToken) : List ArgumentToken :=
  (tokens.dropWhile (· != .comma)).tail

theorem comma_notMem_beforeComma (tokens : List ArgumentToken) : .comma ∉ beforeComma tokens := by
  intro hmem
  have hpassed := List.all_eq_true.mp List.all_takeWhile _ hmem
  simp at hpassed

theorem length_behindComma_lt (token : ArgumentToken) (tokens : List ArgumentToken) :
    (behindComma (token :: tokens)).length < (token :: tokens).length := by
  have hdrop := (List.dropWhile_suffix (l := token :: tokens) (· != .comma)).length_le
  rw [behindComma, List.length_tail]
  rw [List.length_cons] at hdrop ⊢
  omega

/-- Tokens with a comma are cut there, and others are all before it. -/
theorem beforeComma_append (tokens : List ArgumentToken) :
    tokens = beforeComma tokens ∧ behindComma tokens = [] ∨
      tokens = beforeComma tokens ++ .comma :: behindComma tokens := by
  have hsplit := List.takeWhile_append_dropWhile (p := (· != ArgumentToken.comma)) (l := tokens)
  have hhead := List.head?_dropWhile_not (· != ArgumentToken.comma) tokens
  unfold beforeComma behindComma
  cases hdrop : tokens.dropWhile (· != .comma) with
  | nil =>
    rw [hdrop, List.append_nil] at hsplit
    exact .inl ⟨hsplit.symm, rfl⟩
  | cons token rest =>
    rw [hdrop] at hsplit hhead
    have htoken : token = .comma := by simpa using hhead
    rw [htoken] at hsplit
    exact .inr hsplit.symm

/-- Cuts the arguments of an attribute at the commas between them. -/
def cut : List ArgumentToken → List Piece
  | [] => []
  | token :: tokens =>
    if h : breaksOff (beforeComma (token :: tokens)) = false then
      .argument ⟨beforeComma (token :: tokens), comma_notMem_beforeComma _, h⟩ ::
        cut (behindComma (token :: tokens))
    else [.remainder (token :: tokens)]
termination_by tokens => tokens.length
decreasing_by exact length_behindComma_lt token tokens

/-- The pieces of the attributes that are read, in order. -/
def piecesOf (attributes : List Attribute) : List Piece :=
  (attributes.filter (·.path == attributeName)).flatMap fun a =>
    match a.form with
    | .arguments tokens => cut tokens
    | _ => []

/-- The arguments of the attributes that are read, in order. -/
def argumentsOf (attributes : List Attribute) : List Argument :=
  (piecesOf attributes).filterMap Piece.argument?

/-! ### Reading piece by piece -/

namespace AttributeReader

section

variable {r : AttributeReader} {σ : Type} (effect : σ → Text → Except Error (Effect σ))

theorem resume_append (r : AttributeReader) (found : σ) {rest : List ArgumentToken}
    (h : .comma ∉ rest) (more : List ArgumentToken) :
    r.resume effect (found, rest ++ .comma :: more) =
      r.resume effect (found, rest) >>= fun found => r.read effect found (.arguments more) := by
  cases rest with
  | nil => rfl
  | cons token rest =>
    cases token with
    | comma => exact absurd List.mem_cons_self h
    | _ => rfl

/-- Behind a key stands the text that it is set to, or else what stands there has the same message
whatever follows it. -/
theorem Lawful.text_append (hr : r.Lawful) {rest : List ArgumentToken}
    (hrest : rest ≠ [.equals]) (more : List ArgumentToken) :
    (∃ value after, rest = .equals :: .text value :: after) ∨
      ∃ message, r.text rest = .error message ∧
        r.text (rest ++ .comma :: more) = .error message := by
  obtain ⟨noSign, hnoSign⟩ := hr.noSign
  obtain ⟨notText, hnotText⟩ := hr.notText
  rcases rest with _ | ⟨sign, _ | ⟨token, after⟩⟩
  · exact .inr ⟨noSign, hnoSign _ (by simp), hnoSign _ (by simp)⟩
  · have hsign : sign ≠ .equals := by
      rintro rfl
      exact hrest rfl
    exact .inr ⟨noSign, hnoSign _ (by simpa using hsign), hnoSign _ (by simpa using hsign)⟩
  · by_cases hsign : sign = .equals
    · subst hsign
      cases token with
      | text value => exact .inl ⟨value, after, rfl⟩
      | _ => exact .inr ⟨notText, hnotText _ _ nofun, hnotText _ _ nofun⟩
    · exact .inr ⟨noSign, hnoSign _ (by simpa using hsign), hnoSign _ (by simpa using hsign)⟩

/-- What a key and its text are read as does not depend on the arguments behind them. -/
theorem Lawful.apply_append (hr : r.Lawful) (found : σ) (key : Text) {rest : List ArgumentToken}
    (hcomma : .comma ∉ rest) (hrest : rest ≠ [.equals]) (more : List ArgumentToken) :
    (r.apply effect found key (rest ++ .comma :: more) >>= r.resume effect) =
      (r.apply effect found key rest >>= r.resume effect) >>= fun found =>
        r.read effect found (.arguments more) := by
  unfold apply
  cases effect found key with
  | error e => rfl
  | ok e =>
    cases e with
    | mark found => exact resume_append effect r found hcomma more
    | text set =>
      obtain ⟨value, after, rfl⟩ | ⟨message, halone, hbefore⟩ := hr.text_append hrest more
      · have hafter : .comma ∉ after := by simpa using hcomma
        rw [List.cons_append, List.cons_append]
        simp only [hr.text]
        exact resume_append effect r (set value) hafter more
      · simp only [halone, hbefore]
        rfl

/-- What an argument is read as does not depend on the arguments behind it. -/
theorem Lawful.read_append (hr : r.Lawful) (found : σ) (a : Argument)
    (more : List ArgumentToken) :
    r.read effect found (.arguments (a.tokens ++ .comma :: more)) =
      r.read effect found (.arguments a.tokens) >>= fun found =>
        r.read effect found (.arguments more) := by
  obtain ⟨key, rest, htokens, hcomma, hrest⟩ | hkey := a.beginsWithKey_or
  · rw [htokens, List.cons_append, hr.key, hr.key]
    exact hr.apply_append effect found key hcomma hrest more
  · obtain ⟨message, hmessage⟩ := hr.notKey a.tokens hkey a.complete
    have halone := hmessage effect found []
    rw [List.append_nil] at halone
    rw [hmessage, halone]
    rfl

/-- The arguments of an attribute are read piece by piece. -/
theorem Lawful.read_eq_foldlM (hr : r.Lawful) (found : σ) (tokens : List ArgumentToken) :
    r.read effect found (.arguments tokens) =
      (cut tokens).foldlM (fun found p => r.read effect found (.arguments p.tokens)) found := by
  induction tokens using cut.induct generalizing found with
  | case1 => rw [cut, List.foldlM_nil, hr.empty]; rfl
  | case2 token tokens hcomplete ih =>
    have happend := hr.read_append effect found
      ⟨beforeComma (token :: tokens), comma_notMem_beforeComma _, hcomplete⟩
      (behindComma (token :: tokens))
    rw [cut, dif_pos hcomplete, List.foldlM_cons]
    obtain ⟨htokens, hbehind⟩ | htokens := beforeComma_append (token :: tokens)
    · rw [hbehind, cut]
      refine Eq.trans ?_ (bind_pure _).symm
      exact congrArg (fun tokens => r.read effect found (.arguments tokens)) htokens
    · refine Eq.trans ?_ (happend.trans (bind_congr ih))
      exact congrArg (fun tokens => r.read effect found (.arguments tokens)) htokens
  | case3 token tokens hbreaks =>
    rw [cut, dif_neg hbreaks, List.foldlM_cons]
    exact (bind_pure _).symm

theorem breaksOff_cases {part : List ArgumentToken} (h : breaksOff part = true) :
    part = [] ∨ (∃ path, part = [.unfinished path]) ∨ ∃ key, part = [.key key, .equals] := by
  unfold breaksOff at h
  split at h
  · exact .inl rfl
  · exact .inr (.inl ⟨_, rfl⟩)
  · exact .inr (.inr ⟨_, rfl⟩)
  · cases h

/-- What a key can do: fail, be enough, or need the text behind it. -/
theorem Lawful.read_key_cases (hr : r.Lawful) (found : σ) (key : Text)
    (tokens : List ArgumentToken) :
    (∃ e, r.read effect found (.arguments (.key key :: tokens)) = .error e) ∨
      (∃ marked, effect found key = .ok (.mark marked) ∧
        r.read effect found (.arguments (.key key :: tokens)) = r.resume effect (marked, tokens)) ∨
      ∃ set, effect found key = .ok (.text set) ∧
        r.read effect found (.arguments (.key key :: tokens)) = (do
          let (value, rest) ← (r.text tokens).mapError .unreadable
          r.resume effect (set value, rest)) := by
  rw [hr.key, apply]
  cases effect found key with
  | error e => exact .inl ⟨e, rfl⟩
  | ok e =>
    cases e with
    | mark marked => exact .inr (.inl ⟨marked, rfl, rfl⟩)
    | text set =>
      refine .inr (.inr ⟨set, rfl, ?_⟩)
      cases (r.text tokens).mapError Error.unreadable <;> rfl

/-- A key with a sign but no text is not read. -/
theorem Lawful.read_noText_ne_ok (hr : r.Lawful) (found result : σ) (key : Text)
    {rest : List ArgumentToken} (h : rest = [] ∨ ∃ more, rest = .comma :: more) :
    r.read effect found (.arguments (.key key :: .equals :: rest)) ≠ .ok result := by
  have htext : ∃ message, r.text (.equals :: rest) = .error message := by
    obtain rfl | ⟨more, rfl⟩ := h
    · exact hr.noText
    · obtain ⟨notText, hnotText⟩ := hr.notText
      exact ⟨notText, hnotText .comma more nofun⟩
  obtain ⟨message, hmessage⟩ := htext
  intro hok
  obtain ⟨e, hread⟩ | ⟨marked, -, hread⟩ | ⟨set, -, hread⟩ :=
    hr.read_key_cases effect found key (.equals :: rest)
  · cases hread.symm.trans hok
  · cases hread.symm.trans hok
  · rw [hmessage] at hread
    cases hread.symm.trans hok

/-- Nothing is read past a part that breaks off. -/
theorem Lawful.read_ne_ok_of_breaksOff (hr : r.Lawful) (found result : σ)
    {token : ArgumentToken} {tokens : List ArgumentToken}
    (h : breaksOff (beforeComma (token :: tokens)) = true) :
    r.read effect found (.arguments (token :: tokens)) ≠ .ok result := by
  have hcut := beforeComma_append (token :: tokens)
  generalize behindComma (token :: tokens) = behind at hcut
  obtain hpart | ⟨path, hpart⟩ | ⟨key, hpart⟩ := breaksOff_cases h <;> rw [hpart] at hcut
  · obtain ⟨htokens, -⟩ | htokens := hcut
    · cases htokens
    · obtain ⟨message, hmessage⟩ := hr.notKey [.comma] nofun rfl
      rw [htokens, List.nil_append, ← List.singleton_append, hmessage]
      exact nofun
  · obtain ⟨htokens, -⟩ | htokens := hcut
    · obtain ⟨message, hmessage⟩ := hr.unfinished path
      rw [htokens, hmessage]
      exact nofun
    · obtain ⟨message, hmessage⟩ := hr.notKey [.unfinished path, .comma] nofun rfl
      have hread := hmessage effect found behind
      rw [htokens, List.singleton_append]
      exact fun hok => nomatch hread.symm.trans hok
  · obtain ⟨htokens, -⟩ | htokens := hcut
    · rw [htokens]
      exact hr.read_noText_ne_ok effect found result key (.inl rfl)
    · rw [htokens]
      exact hr.read_noText_ne_ok effect found result key (.inr ⟨behind, rfl⟩)

/-- Nothing is read past a remainder. -/
theorem Lawful.read_remainder_ne_ok (hr : r.Lawful) {tokens remainder : List ArgumentToken}
    (h : .remainder remainder ∈ cut tokens) (found result : σ) :
    r.read effect found (.arguments remainder) ≠ .ok result := by
  induction tokens using cut.induct with
  | case1 =>
    rw [cut] at h
    cases h
  | case2 token tokens hcomplete ih =>
    rw [cut, dif_pos hcomplete, List.mem_cons] at h
    obtain hpiece | hmem := h
    · cases hpiece
    · exact ih hmem
  | case3 token tokens hbreaks =>
    rw [cut, dif_neg hbreaks, List.mem_singleton, Piece.remainder.injEq] at h
    rw [h]
    exact hr.read_ne_ok_of_breaksOff effect found result (eq_true_of_ne_false hbreaks)

theorem resume_eq_ok {found result : σ} {rest : List ArgumentToken} (hcomma : .comma ∉ rest)
    (h : r.resume effect (found, rest) = .ok result) : rest = [] ∧ result = found := by
  cases rest with
  | nil =>
    cases h
    exact ⟨rfl, rfl⟩
  | cons token rest =>
    cases token with
    | comma => exact absurd List.mem_cons_self hcomma
    | _ => cases h

/-- An argument that is read is a key that is enough, or one with a text and nothing behind it. -/
theorem Lawful.read_argument_eq_ok (hr : r.Lawful) {found result : σ} {a : Argument}
    (h : r.read effect found (.arguments a.tokens) = .ok result) :
    (∃ key, a.tokens = [.key key] ∧ effect found key = .ok (.mark result)) ∨
      ∃ key value set, a.tokens = [.key key, .equals, .text value] ∧
        effect found key = .ok (.text set) ∧ result = set value := by
  obtain ⟨key, rest, htokens, hcomma, hrest⟩ | hkey := a.beginsWithKey_or
  · rw [htokens] at h ⊢
    obtain ⟨e, hread⟩ | ⟨marked, heffect, hread⟩ | ⟨set, heffect, hread⟩ :=
      hr.read_key_cases effect found key rest
    · cases hread.symm.trans h
    · obtain ⟨rfl, rfl⟩ := resume_eq_ok effect hcomma (hread.symm.trans h)
      exact .inl ⟨key, rfl, heffect⟩
    · obtain ⟨value, after, rfl⟩ | ⟨message, hrefused, -⟩ := hr.text_append hrest []
      · have hafter : .comma ∉ after := by simpa using hcomma
        rw [hr.text] at hread
        obtain ⟨rfl, rfl⟩ := resume_eq_ok effect hafter (hread.symm.trans h)
        exact .inr ⟨key, value, set, rfl, heffect, rfl⟩
      · rw [hrefused] at hread
        cases hread.symm.trans h
  · obtain ⟨message, hmessage⟩ := hr.notKey a.tokens hkey a.complete
    have halone := hmessage effect found []
    rw [List.append_nil] at halone
    cases halone.symm.trans h

end

end AttributeReader

/-! ### All attributes -/

/-- Holds of an attribute that gives its arguments in parentheses, if it is read at all. -/
def Attribute.Parenthesized (a : Attribute) : Prop :=
  a.path = attributeName → ∃ tokens, a.form = .arguments tokens

instance : (a : Attribute) → Decidable a.Parenthesized
  | ⟨_, .arguments tokens⟩ => .isTrue fun _ => ⟨tokens, rfl⟩
  | ⟨path, .bare⟩ =>
    decidable_of_iff (path ≠ attributeName) (by simp [Attribute.Parenthesized])
  | ⟨path, .value _⟩ =>
    decidable_of_iff (path ≠ attributeName) (by simp [Attribute.Parenthesized])

section

variable {r : AttributeReader} {α : Type} (effect : α → Text → Except Error (Effect α))
  {attributes : List Attribute}

/-- Attributes with parentheses are read piece by piece, and the first that fails is the error,
whatever attribute it stands in. -/
theorem readAttributes_eq_foldlM (hr : r.Lawful) (initial : α)
    (h : ∀ a ∈ attributes, a.Parenthesized) :
    readAttributes r effect initial attributes = (piecesOf attributes).foldlM
      (fun found p => r.read effect found (.arguments p.tokens)) initial := by
  have hread : ∀ a ∈ attributes.filter (·.path == attributeName),
      ∃ tokens, a.form = .arguments tokens := by
    intro a ha
    rw [List.mem_filter, beq_iff_eq] at ha
    exact h a ha.1 ha.2
  unfold readAttributes piecesOf
  generalize attributes.filter (·.path == attributeName) = read at hread ⊢
  induction read generalizing initial with
  | nil => rfl
  | cons a rest ih =>
    rw [List.forall_mem_cons] at hread
    obtain ⟨⟨tokens, hform⟩, hrest⟩ := hread
    rw [List.foldlM_cons, List.flatMap_cons, List.foldlM_append, hform, hr.read_eq_foldlM]
    exact bind_congr fun found => ih found hrest

/-- Attributes that are read without an error have parentheses. -/
theorem parenthesized_of_readAttributes (hr : r.Lawful) {initial result : α}
    (h : readAttributes r effect initial attributes = .ok result) :
    ∀ a ∈ attributes, a.Parenthesized := by
  intro a ha hpath
  have hmem : a ∈ attributes.filter (·.path == attributeName) := by simp [ha, hpath]
  unfold readAttributes at h
  generalize attributes.filter (·.path == attributeName) = read at h hmem
  induction read generalizing initial with
  | nil => cases hmem
  | cons first rest ih =>
    rw [List.foldlM_cons, Except.bind_eq_ok_iff] at h
    obtain ⟨found, hfound, hrest⟩ := h
    rcases List.mem_cons.mp hmem with rfl | hmem
    · cases hform : a.form with
      | arguments tokens => exact ⟨tokens, rfl⟩
      | bare | value tokens =>
        obtain ⟨message, hmessage⟩ := hr.unparenthesized a.form (by simp [hform])
        rw [hmessage] at hfound
        cases hfound
    · exact ih hrest hmem

/-- Where nothing is at fault there are arguments alone. -/
theorem foldlM_argumentsOf (hr : r.Lawful) {initial result : α}
    (h : readAttributes r effect initial attributes = .ok result) :
    (argumentsOf attributes).foldlM
      (fun found a => r.read effect found (.arguments a.tokens)) initial =
        .ok result := by
  have hremainder : ∀ tokens, .remainder tokens ∈ piecesOf attributes → ∀ found result,
      r.read effect found (.arguments tokens) ≠ .ok result := by
    intro tokens hmem
    obtain ⟨a, -, hpiece⟩ := List.mem_flatMap.mp hmem
    split at hpiece
    · exact hr.read_remainder_ne_ok effect hpiece
    · cases hpiece
  rw [readAttributes_eq_foldlM effect hr initial (parenthesized_of_readAttributes effect hr h)] at h
  unfold argumentsOf
  generalize piecesOf attributes = pieces at h hremainder
  induction pieces generalizing initial with
  | nil => exact h
  | cons p pieces ih =>
    rw [List.foldlM_cons, Except.bind_eq_ok_iff] at h
    obtain ⟨found, hfound, hrest⟩ := h
    have hrest' := ih hrest fun tokens hmem => hremainder tokens (List.mem_cons_of_mem p hmem)
    cases p with
    | argument a =>
      have hread : r.read effect initial (.arguments a.tokens) = .ok found := hfound
      rw [List.filterMap_cons_some (f := Piece.argument?) rfl, List.foldlM_cons, hread]
      exact hrest'
    | remainder tokens => exact absurd hfound (hremainder tokens List.mem_cons_self _ _)

end

end TupleRecord.Declaration
