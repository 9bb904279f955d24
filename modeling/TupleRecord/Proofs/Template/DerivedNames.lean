import TupleRecord.Proofs.Name.Separators
import TupleRecord.Proofs.Template.FirstFault

/-!
The names that the fields of a template get. A constant is its field's name but for separators and
case, so two fields can only collide there if their names agree up to underscores and case. The
names of accepted fields are identifiers, and what is derived from them is no reserved word; it is
an identifier too, but for the letters that upper case spells with combining marks.
-/
namespace TupleRecord

namespace Name

open Unicode

/-! ### Identifiers -/

theorem all_upperSnake (previous : Option Char) (name : Text) :
    (upperSnake previous name).all isIdentifierPart =
      name.all fun c => (toUppercase c).all isIdentifierPart := by
  induction name generalizing previous with
  | nil => rfl
  | cons c name ih =>
    have hseparator : (if beginsWord previous c name.head? then ['_'] else []).all
        isIdentifierPart = true := by
      split <;> rfl
    rw [upperSnake, List.all_append, List.all_append, ih, hseparator, Bool.true_and, List.all_cons]

theorem isIdentifier_iff_all {c : Char} {name : Text} (h : isIdentifierStart c) :
    isIdentifier (c :: name) ↔ (c :: name).all isIdentifierPart := by
  simp [isIdentifier, h, isIdentifierPart_of_isIdentifierStart h]

/-- The constant of an identifier is one, unless upper case spells a letter of it with marks. -/
theorem isIdentifier_constant_iff {name : Text} (h : isIdentifier name) :
    isIdentifier (constant name) ↔ ∀ c ∈ name, c ∉ markedLetters := by
  have hpart := isIdentifierPart_of_mem h
  cases name with
  | nil => cases h
  | cons c rest =>
    rw [isIdentifier, Bool.and_eq_true] at h
    obtain ⟨d, more, hupper, hd⟩ := toUppercase_of_isIdentifierStart h.1
    have hcons : constant (c :: rest) =
        d :: (more ++ upperSnake (some c) rest ++ constantEnding) := by
      rw [constant, upperSnake, hupper]
      rfl
    have hending : constantEnding.all isIdentifierPart = true := by decide +kernel
    rw [hcons, isIdentifier_iff_all hd, ← hcons, constant, List.all_append, hending, Bool.and_true,
      all_upperSnake, List.all_eq_true]
    exact forall₂_congr fun e he => all_toUppercase_iff (hpart e he)

/-- An accessor of an identifier is one, unless upper case spells its first letter with marks. -/
theorem isIdentifier_accessor_iff {verb name : Text} (hverb : isIdentifier verb)
    (h : isIdentifier name) :
    isIdentifier (accessor verb name) ↔ ∀ c ∈ name.head?, c ∉ markedLetters := by
  have hpart := isIdentifierPart_of_mem h
  have hverbpart : verb.all isIdentifierPart = true :=
    List.all_eq_true.mpr (isIdentifierPart_of_mem hverb)
  cases name with
  | nil => cases h
  | cons c rest =>
    cases verb with
    | nil => cases hverb
    | cons v verb =>
      rw [isIdentifier, Bool.and_eq_true] at hverb
      rw [List.forall_mem_cons] at hpart
      have hrest : rest.all isIdentifierPart = true := List.all_eq_true.mpr hpart.2
      rw [accessor, List.cons_append, isIdentifier_iff_all hverb.1, ← List.cons_append,
        List.all_append, hverbpart, Bool.true_and, capitalize, List.all_append, hrest,
        Bool.and_true, all_toUppercase_iff hpart.1]
      simp

/-! ### Reserved words -/

theorem isReserved_constant (name : Text) : isReserved (constant name) = false := by
  have hwords : ∀ word ∈ reservedWords, ¬ constantEnding <:+ word := by decide
  rw [← Bool.not_eq_true]
  intro h
  exact hwords _ (List.contains_iff_mem.mp h) (List.suffix_append _ _)

/-- No reserved word begins with the verb of an accessor. -/
theorem isReserved_accessor {verb : Text} (hverb : ∀ word ∈ reservedWords, ¬ verb <+: word)
    (name : Text) : isReserved (accessor verb name) = false := by
  rw [← Bool.not_eq_true]
  intro h
  exact hverb _ (List.contains_iff_mem.mp h) (List.prefix_append _ _)

end Name

namespace Template

/-- A collision of constants is found among the fields. -/
theorem checkFields_of_constantCollision {t : Template} {first second shared : Text}
    (h : t.validate = .error (.constantCollision first second shared)) :
    checkFields [] t.fields = .error (.constantCollision first second shared) := by
  unfold validate checkName checkPackage at h
  rcases Except.bind_eq_error_iff.mp h with hname | ⟨_, -, h⟩
  · split_ifs at hname <;> cases hname
  rcases Except.bind_eq_error_iff.mp h with hpackage | ⟨_, -, h⟩
  · split_ifs at hpackage
    split at hpackage <;> cases hpackage
  by_cases hnone : t.fields = []
  · rw [if_pos hnone] at h
    cases h
  · rwa [if_neg hnone] at h

/-- The fields whose constants collide have names that agree up to underscores and case. -/
theorem folded_eq_of_constantCollision {t : Template} {first second shared : Text}
    (h : t.validate = .error (.constantCollision first second shared)) :
    Name.folded first = Name.folded second := by
  obtain ⟨i, f, -, -, -, hfault⟩ :=
    checkFields_eq_error_iff_fault.mp (checkFields_of_constantCollision h)
  cases hfault with
  | @constantCollision g sound bareName shared =>
    have hg : g ∈ (t.fields.take i).filter (·.constant == f.constant) := by simp [shared]
    have hconstant : g.constant = f.constant := by simpa using (List.mem_filter.mp hg).2
    have hfolded := Name.folded_eq_of_constant_eq hconstant
    rwa [Field.bareName, Field.bareName, Name.folded_bare, Name.folded_bare] at hfolded

/-- A constant shows the words of a name in upper case and has nothing else but the separators
between them and its ending. So names that share a constant agree up to underscores and case, and
those of two fields that a template is refused for are such names. -/
theorem constant_separates :
    (∀ name, ∃ words, Name.Separated name words ∧
      Name.constant name = List.intercalate ['_'] (words.map Unicode.upper) ++ "_FN") ∧
      (∀ a b, Name.constant a = Name.constant b → Name.folded a = Name.folded b) ∧
      ∀ (t : Template) (first second shared : Text),
        t.validate = .error (.constantCollision first second shared) →
          Name.folded first = Name.folded second := by
  refine ⟨fun name => ⟨_, Name.separated_words name, Name.constant_eq_intercalate name⟩, ?_, ?_⟩
  · exact fun a b h => Name.folded_eq_of_constant_eq h
  · exact fun t first second shared h => folded_eq_of_constantCollision h

/-- One field has a separator where the other has an underscore of its own. -/
def separatedTwice : Template :=
  ⟨"com.example", "UserDatumTemplate", [⟨"_parseHTMLBody", .string, none⟩,
    ⟨"__parse_HTML_body", .date, none⟩]⟩

theorem constant_separates_twice :
    (∃ words, Name.Separated "parseHTMLBody" words ∧
      ("PARSE_HTML_BODY_FN" : Text) =
        List.intercalate ['_'] (words.map Unicode.upper) ++ "_FN") ∧
      Name.constant "parseHTMLBody" = Name.constant "parse_HTML_body" ∧
      Name.folded "parseHTMLBody" = Name.folded "parse_HTML_body" ∧
      separatedTwice.validate = .error (.constantCollision "_parseHTMLBody" "__parse_HTML_body"
        "PARSE_HTML_BODY_FN") ∧
      Name.folded "_parseHTMLBody" = Name.folded "__parse_HTML_body" := by
  have hconstant : Name.constant "parseHTMLBody" = "PARSE_HTML_BODY_FN" := by decide +kernel
  have hsame : Name.constant "parseHTMLBody" = Name.constant "parse_HTML_body" := by
    decide +kernel
  have hrefused : separatedTwice.validate = .error (.constantCollision "_parseHTMLBody"
      "__parse_HTML_body" "PARSE_HTML_BODY_FN") := by
    decide +kernel
  obtain ⟨hwords, hnames, hfields⟩ := constant_separates
  obtain ⟨words, hseparated, hshown⟩ := hwords "parseHTMLBody"
  exact ⟨⟨words, hseparated, by rw [← hshown, hconstant]⟩, hsame, hnames _ _ hsame, hrefused,
    hfields _ _ _ _ hrefused⟩

/-- The derived names of an accepted field are identifiers exactly if upper case spells none of
the letters that it changes with marks: all letters for the constant, the first for the accessors.
None of these names is a reserved word. -/
theorem derivedNames_isIdentifier_iff {t : Template} (h : t.validate = .ok ()) {f : Field}
    (hf : f ∈ t.fields) :
    (Name.isIdentifier f.constant ↔ ∀ c ∈ f.bareName, c ∉ Unicode.markedLetters) ∧
      (Name.isIdentifier f.setter ↔ ∀ c ∈ f.bareName.head?, c ∉ Unicode.markedLetters) ∧
      (Name.isIdentifier f.getter ↔ ∀ c ∈ f.bareName.head?, c ∉ Unicode.markedLetters) ∧
      ∀ name ∈ [f.constant, f.setter, f.getter], Name.isReserved name = false := by
  have hname := ((validate_eq_ok_iff.mp h).fields f hf).usable
  rw [Name.isUsable, Bool.and_eq_true] at hname
  have hverbs : ∀ word ∈ Name.reservedWords, ¬ "set".toList <+: word ∧ ¬ "get".toList <+: word := by
    decide
  refine ⟨Name.isIdentifier_constant_iff hname.1,
    Name.isIdentifier_accessor_iff (by decide +kernel) hname.1,
    Name.isIdentifier_accessor_iff (by decide +kernel) hname.1, ?_⟩
  simp only [List.forall_mem_cons, List.not_mem_nil, false_implies, implies_true, and_true]
  exact ⟨Name.isReserved_constant _,
    Name.isReserved_accessor (fun word hword => (hverbs word hword).1) _,
    Name.isReserved_accessor (fun word hword => (hverbs word hword).2) _⟩

/-- A field whose name ends in a j with caron, a letter without a capital. -/
def caron (start : Text) : Field := ⟨start ++ ['\u01f0'], .uuid, none⟩

def only (f : Field) : Template := ⟨"com.example", "UserDatumTemplate", [f]⟩

theorem derivedNames_isIdentifier_iff_caron :
    (only (caron "_a")).validate = .ok () ∧ ¬ Name.isIdentifier (caron "_a").constant ∧
      Name.isIdentifier (caron "_a").setter ∧ Name.isIdentifier (caron "_a").getter := by
  have hvalid : (only (caron "_a")).validate = .ok () := by decide +kernel
  have hmarked : '\u01f0' ∈ (caron "_a").bareName ∧ '\u01f0' ∈ Unicode.markedLetters := by decide
  have hfirst : ∀ c ∈ (caron "_a").bareName.head?, c ∉ Unicode.markedLetters := by
    have hhead : (caron "_a").bareName.head? = some 'a' := by decide
    rw [hhead]
    rintro _ ⟨⟩
    decide
  obtain ⟨hconstant, hsetter, hgetter, -⟩ :=
    derivedNames_isIdentifier_iff hvalid (List.mem_singleton.mpr rfl)
  exact ⟨hvalid, fun h => hconstant.mp h _ hmarked.1 hmarked.2, hsetter.mpr hfirst,
    hgetter.mpr hfirst⟩

/-- Where the letter is the whole name, none of the names derived from it is an identifier. -/
theorem validate_caron :
    (only (caron [])).validate = .ok () ∧
      ∀ name ∈ [(caron []).constant, (caron []).setter, (caron []).getter],
        Name.isIdentifier name = false := by
  decide +kernel

end Template
end TupleRecord
