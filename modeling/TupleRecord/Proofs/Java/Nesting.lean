import TupleRecord.Proofs.Java.Escape
import TupleRecord.Proofs.Java.Plain
import TupleRecord.Proofs.Java.Reader

/-!
The blocks of a source. A reader goes through a source character by character and counts the braces
that are open, outside of comments only; a brace that closes nothing stops it. `Nested` reads a
source line by line and holds every line to the indentation that its blocks demand. Statements,
code and comments leave the count as it was, so the lines of a class can be read part by part.
-/
namespace TupleRecord.Java

/-- Where a reader of a source stands, as far as the next character depends on it. -/
inductive Cursor where
  | code
  | slash
  | literal
  /-- Behind a backslash in a literal. -/
  | escape
  | comment
  /-- Behind a star in a comment. -/
  | star
  deriving DecidableEq, Repr

namespace Cursor

/-- Comments open outside of literals only, and a backslash in a literal covers the character
behind it. -/
def step : Cursor → Char → Cursor
  | code, c => if c = '/' then slash else if c = '"' then literal else code
  | slash, c =>
    if c = '*' then comment else if c = '/' then slash else if c = '"' then literal else code
  | literal, c => if c = '\\' then escape else if c = '"' then code else literal
  | escape, _ => literal
  | comment, c => if c = '*' then star else comment
  | star, c => if c = '/' then code else if c = '*' then star else comment

def inComment : Cursor → Bool
  | comment | star => true
  | _ => false

end Cursor

/-- A reader with the number of blocks that are open around it. -/
structure Nesting where
  cursor : Cursor
  depth : Nat
  deriving DecidableEq, Repr

namespace Nesting

def start : Nesting := ⟨.code, 0⟩

/-- Reads a character. Outside of comments a brace opens or closes a block, if there is one. -/
def step (n : Nesting) (c : Char) : Option Nesting :=
  if n.cursor.inComment then some ⟨n.cursor.step c, n.depth⟩
  else if c = '\x7b' then some ⟨n.cursor.step c, n.depth + 1⟩
  else if c = '\x7d' then
    if n.depth = 0 then none else some ⟨n.cursor.step c, n.depth - 1⟩
  else some ⟨n.cursor.step c, n.depth⟩

def read? (n : Nesting) (text : Text) : Option Nesting := text.foldlM step n

@[simp] theorem read?_nil (n : Nesting) : n.read? [] = some n := rfl

theorem read?_cons (n : Nesting) (c : Char) (text : Text) :
    n.read? (c :: text) = (n.step c).bind (·.read? text) := rfl

theorem read?_append (n : Nesting) (a b : Text) :
    n.read? (a ++ b) = (n.read? a).bind (·.read? b) := by
  simp only [read?, List.foldlM_append, Option.bind_eq_bind]

/-- Flat text leaves a reader in code or in a literal where it was. -/
theorem read?_flat {cursor : Cursor} (hcursor : cursor = .code ∨ cursor = .literal) {text : Text}
    (h : Flat text) (depth : Nat) : read? ⟨cursor, depth⟩ text = some ⟨cursor, depth⟩ := by
  induction text with
  | nil => rfl
  | cons c text ih =>
    rw [Flat, List.all_cons, Bool.and_eq_true] at h
    have hc := h.1
    simp only [isFlatChar, isPlainChar, Bool.and_eq_true, bne_iff_ne, ne_eq] at hc
    have hstep : step ⟨cursor, depth⟩ c = some ⟨cursor, depth⟩ := by
      rcases hcursor with rfl | rfl <;> simp [step, Cursor.step, Cursor.inComment, hc]
    rw [read?_cons, hstep, Option.bind_some, ih h.2]

theorem read?_code {text : Text} (h : Flat text) (depth : Nat) (rest : Text) :
    read? ⟨.code, depth⟩ (text ++ rest) = read? ⟨.code, depth⟩ rest := by
  rw [read?_append, read?_flat (.inl rfl) h, Option.bind_some]

theorem flat_replicate (width : Nat) : Flat (List.replicate width ' ') := by
  rw [Flat, List.all_eq_true]
  intro c hc
  rw [List.eq_of_mem_replicate hc]
  rfl

/-- A comment goes on behind a text that does not end it. The character behind the text belongs to
no terminator, so it is read from inside the comment and stays there. -/
theorem read?_comment {text : Text} (h : Text.Apart '*' '/' text) {c : Char} (hstar : c ≠ '*')
    (hslash : c ≠ '/') (depth : Nat) :
    read? ⟨.comment, depth⟩ (text ++ [c]) = some ⟨.comment, depth⟩ := by
  have hfrom (cursor : Cursor)
      (hcursor : cursor = .comment ∨ cursor = .star ∧ text.head? ≠ some '/') :
      read? ⟨cursor, depth⟩ (text ++ [c]) = some ⟨.comment, depth⟩ := by
    induction text generalizing cursor with
    | nil =>
      rcases hcursor with rfl | ⟨rfl, -⟩ <;>
        simp [read?_cons, step, Cursor.step, Cursor.inComment, hstar, hslash]
    | cons d text ih =>
      rw [Text.apart_cons] at h
      have hstep : step ⟨cursor, depth⟩ d =
          some ⟨if d = '*' then .star else .comment, depth⟩ := by
        rcases hcursor with rfl | ⟨rfl, hd⟩
        · rfl
        · have hd : d ≠ '/' := by simpa using hd
          simp [step, Cursor.step, Cursor.inComment, hd]
      rw [List.cons_append, read?_cons, hstep, Option.bind_some]
      apply ih h.2
      by_cases hd : d = '*'
      · rw [if_pos hd]
        exact .inr ⟨rfl, h.1 hd⟩
      · rw [if_neg hd]
        exact .inl rfl
  exact hfrom .comment (.inl rfl)

end Nesting

/-- Holds of a line behind the spaces that its block demands. A line that begins with a closing
brace stands where the block stands that it closes. -/
def Indented (unit depth : Nat) (line : Text) : Prop :=
  ∃ text : Text, text ≠ [] ∧ text.head? ≠ some ' ' ∧
    line = List.replicate (unit * if text.head? = some '\x7d' then depth - 1 else depth) ' ' ++ text

/-- Reads lines from one nesting to another. A line that is not empty has to be indented by the
number of blocks that are open before it, unless it begins inside a comment. -/
inductive Nested (unit : Nat) : Nesting → List Text → Nesting → Prop where
  | nil (n : Nesting) : Nested unit n [] n
  | cons {n next last : Nesting} {line : Text} {lines : List Text}
      (indented : line ≠ [] → n.cursor.inComment = false → Indented unit n.depth line)
      (read : n.read? (line ++ ['\n']) = some next) (rest : Nested unit next lines last) :
      Nested unit n (line :: lines) last

namespace Nested

variable {unit depth : Nat}

theorem append {n next last : Nesting} {a b : List Text} (ha : Nested unit n a next)
    (hb : Nested unit next b last) : Nested unit n (a ++ b) last := by
  induction ha with
  | nil n => exact hb
  | cons indented read rest ih => exact .cons indented read (ih hb)

theorem read? {n last : Nesting} {lines : List Text} (h : Nested unit n lines last) :
    n.read? (Text.unlines lines) = some last := by
  induction h with
  | nil n => rfl
  | @cons n next last line lines indented read rest ih =>
    have htext : Text.unlines (line :: lines) = (line ++ ['\n']) ++ Text.unlines lines := by simp
    rw [htext, Nesting.read?_append, read, Option.bind_some, ih]

theorem flatMap {α : Type} {n : Nesting} {xs : List α} {f : α → List Line}
    (h : ∀ x ∈ xs, Nested unit n ((f x).map (Line.written unit)) n) :
    Nested unit n ((xs.flatMap f).map (Line.written unit)) n := by
  induction xs with
  | nil => exact .nil n
  | cons x xs ih =>
    rw [List.forall_mem_cons] at h
    rw [List.flatMap_cons, List.map_append]
    exact h.1.append (ih h.2)

/-- Lines that each lead back to where they begin can follow one another. -/
theorem each {n : Nesting} {lines : List Line} (h : ∀ l ∈ lines, Nested unit n [l.written unit] n) :
    Nested unit n (lines.map (Line.written unit)) n := by
  have hlines := flatMap (f := fun l => [l]) h
  rwa [List.flatMap_singleton'] at hlines

/-- An empty line is read in code as nothing. -/
theorem blank (unit depth : Nat) (level : Nat) :
    Nested unit ⟨.code, depth⟩ [Line.written unit ⟨level, []⟩] ⟨.code, depth⟩ :=
  .cons (fun h => absurd rfl h) rfl (.nil _)

/-- A line of code, at the level that the braces before it and at its start demand. -/
theorem line {text : Text} {level : Nat} {n : Nesting} (hbegins : text.head?.any (· != ' '))
    (hlevel : level = if text.head? = some '\x7d' then depth - 1 else depth)
    (hread : Nesting.read? ⟨.code, depth⟩ (text ++ ['\n']) = some n) :
    Nested unit ⟨.code, depth⟩ [Line.written unit ⟨level, text⟩] n := by
  have hne : text ≠ [] := by
    rintro rfl
    cases hbegins
  have hspace : text.head? ≠ some ' ' := by
    intro h
    rw [h] at hbegins
    cases hbegins
  have hwritten : Line.written unit ⟨level, text⟩ = List.replicate (unit * level) ' ' ++ text :=
    if_neg hne
  rw [hwritten]
  refine .cons (fun _ _ => ⟨text, hne, hspace, ?_⟩) ?_ (.nil _)
  · rw [hlevel]
  · rw [List.append_assoc, Nesting.read?_code (Nesting.flat_replicate _), hread]

theorem statement {text : Text} (h : Statement text) :
    Nested unit ⟨.code, depth⟩ [Line.written unit ⟨depth, text⟩] ⟨.code, depth⟩ := by
  have hbrace : text.head? ≠ some '\x7d' :=
    fun hhead => h.flat.notMem (by decide) (List.mem_of_mem_head? hhead)
  refine line h.begins (if_neg hbrace).symm ?_
  rw [Nesting.read?_code h.flat]
  rfl

/-- The line that opens a block. -/
theorem opening {head : Text} (hflat : Flat head) (hbegins : head.head?.any (· != ' ')) :
    Nested unit ⟨.code, depth⟩ [Line.written unit ⟨depth, head ++ " \x7b"⟩]
      ⟨.code, depth + 1⟩ := by
  have hhead : (head ++ " \x7b".toList).head? = head.head? := by
    apply List.head?_append_of_ne_nil
    rintro rfl
    cases hbegins
  have hbrace : head.head? ≠ some '\x7d' :=
    fun hhead => hflat.notMem (by decide) (List.mem_of_mem_head? hhead)
  refine line (by rw [hhead]; exact hbegins) (by rw [hhead, if_neg hbrace]) ?_
  rw [List.append_assoc, Nesting.read?_code hflat]
  rfl

/-- The line that closes a block, with what stands behind the brace. -/
theorem closing {rest : Text} (h : Flat rest) :
    Nested unit ⟨.code, depth + 1⟩ [Line.written unit ⟨depth, '\x7d' :: rest⟩]
      ⟨.code, depth⟩ := by
  refine line rfl rfl ?_
  have hread : Nesting.read? ⟨.code, depth + 1⟩ ('\x7d' :: rest ++ ['\n']) =
      Nesting.read? ⟨.code, depth⟩ (rest ++ ['\n']) := rfl
  rw [hread, Nesting.read?_code h]
  rfl

/-- The literal of a name is read as one piece of the line around it. -/
theorem namesInCall {text : Text} (h : NamesInCall text) (hbegins : text.head?.any (· != ' '))
    (hbrace : text.head? ≠ some '\x7d') :
    Nested unit ⟨.code, depth⟩ [Line.written unit ⟨depth, text⟩] ⟨.code, depth⟩ := by
  refine line hbegins (if_neg hbrace).symm ?_
  obtain ⟨before, name, hbefore, hname, rfl⟩ := h
  have hquote : Nesting.read? ⟨.code, depth⟩ (Literal.quote name ++ ");" ++ ['\n']) =
      Nesting.read? ⟨.literal, depth⟩ (name ++ "\");\n") := by
    rw [Literal.quote_of_word hname, List.append_assoc]
    simp only [List.cons_append, List.append_assoc]
    rfl
  rw [List.append_assoc, List.append_assoc, Nesting.read?_code hbefore, ← List.append_assoc, hquote,
    Nesting.read?_append, Nesting.read?_flat (.inr rfl) (flat_of_word hname)]
  rfl

theorem code {c : Code} (h : c.All Statement) :
    Nested unit ⟨.code, depth⟩ ((c.lines depth).map (Line.written unit)) ⟨.code, depth⟩ := by
  induction c generalizing depth with
  | done => exact .nil _
  | line text next ih => exact (statement h.1).append (ih h.2)
  | blank next ih => exact (blank unit depth depth).append (ih h)
  | block head body next ihbody ihnext =>
    have hopen := @opening unit depth head h.1.flat h.1.begins
    have hclose := @closing unit depth [] rfl
    have hblock := hopen.append ((ihbody h.2.1).append (hclose.append (ihnext h.2.2)))
    simpa [Code.lines] using hblock

/-- The lines of a box are read inside the comment. -/
theorem boxed {text : Text} (h : Text.Apart '*' '/' text) (level : Nat) :
    Nested unit ⟨.comment, depth⟩ [Line.written unit ⟨level, text⟩] ⟨.comment, depth⟩ := by
  have hapart : Text.Apart '*' '/' (Line.written unit ⟨level, text⟩) := by
    unfold Line.written
    split
    · exact Text.apart_nil
    · rw [Text.apart_append_of_notMem]
      · exact h
      · exact fun hmem => absurd (List.eq_of_mem_replicate hmem) (by decide)
  exact .cons (fun _ hcode => by cases hcode)
    (Nesting.read?_comment hapart (by decide) (by decide) depth) (.nil _)

/-- A comment begins where the code around it stands and leads back to it. -/
theorem comment (doc : Text) :
    Nested unit ⟨.code, depth⟩ ((Comment.lines depth doc).map (Line.written unit))
      ⟨.code, depth⟩ := by
  have hshown {line : Text} (hline : line ∈ Comment.shown doc) : Text.Apart '*' '/' line :=
    Comment.apart_of_mem_shown (Comment.apart_escape doc).1 hline
  rcases Comment.layout_eq doc with ⟨-, h⟩ | ⟨text, htext, h⟩ | h <;> rw [Comment.lines, h]
  · exact line rfl rfl rfl
  · refine line rfl rfl ?_
    have hread : Nesting.read? ⟨.code, depth⟩ ("/** " ++ text ++ " */" ++ ['\n']) =
        Nesting.read? ⟨.comment, depth⟩ (text ++ [' '] ++ "*/\n") := by
      simp only [List.append_assoc]
      rfl
    rw [hread, Nesting.read?_append,
      Nesting.read?_comment (hshown (by simp [htext])) (by decide) (by decide)]
    rfl
  · have hopen : Nested unit ⟨.code, depth⟩ [Line.written unit ⟨depth, "/**"⟩]
        ⟨.comment, depth⟩ := line rfl rfl rfl
    have hbox : Nested unit ⟨.comment, depth⟩
        (((Comment.shown doc).map fun line => ⟨depth, Comment.boxedLine line⟩).map
          (Line.written unit)) ⟨.comment, depth⟩ := by
      apply each
      rw [List.forall_mem_map]
      intro line hline
      exact boxed (Comment.apart_boxedLine (by decide) (by decide) (by decide) (hshown hline)) depth
    have hclose : Nested unit ⟨.comment, depth⟩ [Line.written unit ⟨depth, " */"⟩]
        ⟨.code, depth⟩ := by
      refine .cons (fun _ hcode => by cases hcode) ?_ (.nil _)
      have hspaces : Line.written unit ⟨depth, " */"⟩ ++ ['\n'] =
          List.replicate (unit * depth) ' ' ++ [' '] ++ "*/\n" := by
        simp [Line.written]
      have hapart : Text.Apart '*' '/' (List.replicate (unit * depth) ' ') :=
        Text.apart_of_notMem fun hmem => absurd (List.eq_of_mem_replicate hmem) (by decide)
      rw [hspaces, Nesting.read?_append,
        Nesting.read?_comment hapart (by decide) (by decide)]
      rfl
    have hcomment := hopen.append (hbox.append hclose)
    simpa [Function.comp_def] using hcomment

end Nested
end TupleRecord.Java
