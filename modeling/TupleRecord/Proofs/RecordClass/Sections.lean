import TupleRecord.Proofs.Java.Reader
import TupleRecord.Proofs.RecordClass.PlainCode

/-!
A source around the list of all constants. The settings of the layout are the indentation and the
width that this list may have; `Sections.read` finds the list among the lines of a source, and two
layouts of one class differ in its lines and in the indentation of all others, but in no token.
-/
namespace TupleRecord

open Java

/-- A text without its spaces and line feeds. -/
def inked (text : Text) : Text := text.filter fun c => c != ' ' && c != '\n'

@[simp] theorem inked_append (a b : Text) : inked (a ++ b) = inked a ++ inked b :=
  List.filter_append ..

theorem inked_replicate (width : Nat) : inked (List.replicate width ' ') = [] := by
  induction width with
  | zero => rfl
  | succ width ih => exact ih

/-- A source without spaces and line feeds knows nothing of its indentation. -/
theorem inked_renderLines (unit : Nat) (lines : List Line) :
    inked (renderLines unit lines) = lines.flatMap fun l => inked l.text := by
  induction lines with
  | nil => rfl
  | cons l lines ih =>
    obtain ⟨width, hline⟩ := Writer.indented_append (unit * l.depth) l.text
    have hbreak : inked ('\n' :: renderLines unit lines) = inked (renderLines unit lines) := rfl
    rw [renderLines_cons, hline, inked_append, inked_append, inked_replicate, hbreak, ih,
      List.nil_append, List.flatMap_cons]

/-- The lines of a source around the declaration of the list of all constants. -/
structure Sections where
  before : List Text
  fields : List Text
  after : List Text
  deriving DecidableEq, Repr

namespace Sections

/-- Holds of the line that begins the declaration, at any indentation. -/
def opensFields (line : Text) : Bool :=
  (Text.dropStart? RecordClass.fieldsHead (unindent line)).isSome

/-- Holds of a line that can end the declaration. -/
def closesFields (line : Text) : Bool := Text.endsWith "\x7d);" line

/-- Finds the declaration among the lines of a source: from the first line that begins it through
the next line that ends it. -/
def read (source : Text) : Sections :=
  let lines := Text.split '\n' source
  let rest := lines.dropWhile (!opensFields ·)
  let last := rest.dropWhile (!closesFields ·)
  ⟨lines.takeWhile (!opensFields ·), rest.takeWhile (!closesFields ·) ++ last.take 1, last.drop 1⟩

/-- The constant on a line of the list, without the comma behind it. -/
def listedName (line : Text) : Text := (Text.dropEnd? "," (unindent line)).getD (unindent line)

/-- The lines that declare the list of some constants: all of it on one line exactly if the line
fits, and else the constants in their order, one to a line. -/
structure Declares (s : Settings) (constants lines : List Text) : Prop where
  oneLine_iff : lines.length = 1 ↔
    s.indentWidth + (RecordClass.fieldsSingle constants).length ≤ s.maxLineWidth
  oneLine : lines.length = 1 →
    lines = [List.replicate s.indentWidth ' ' ++ RecordClass.fieldsSingle constants]
  listed : lines.length ≠ 1 → ∃ listed : List Text,
    lines = (List.replicate s.indentWidth ' ' ++ (RecordClass.fieldsHead ++ " \x7b")) ::
      (listed ++ [List.replicate s.indentWidth ' ' ++ "\x7d);"]) ∧ listed.map listedName = constants

theorem read_of_parts {source : Text} {before middle after : List Text} {last : Text}
    (hsource : Text.split '\n' source = before ++ (middle ++ last :: after))
    (hbefore : ∀ line ∈ before, opensFields line = false)
    (hopen : ∀ line ∈ (middle ++ [last]).head?, opensFields line)
    (hmiddle : ∀ line ∈ middle, closesFields line = false) (hlast : closesFields last) :
    read source = ⟨before, middle ++ [last], after⟩ := by
  have hskip : ∀ line ∈ before, (!opensFields line) = true := by simpa using hbefore
  have hstop : ∀ line ∈ middle, (!closesFields line) = true := by simpa using hmiddle
  have hopened : (middle ++ last :: after).takeWhile (!opensFields ·) = [] ∧
      (middle ++ last :: after).dropWhile (!opensFields ·) = middle ++ last :: after := by
    cases middle with
    | nil => simp [hopen last (by simp)]
    | cons line middle => simp [hopen line (by simp)]
  simp only [read, hsource, List.takeWhile_append_of_pos hskip, List.dropWhile_append_of_pos hskip,
    hopened, List.takeWhile_append_of_pos hstop, List.dropWhile_append_of_pos hstop]
  simp [hlast]

theorem closesFields_of_notMem {line : Text} (h : '\x7d' ∉ line) : closesFields line = false := by
  unfold closesFields Text.endsWith
  cases hend : Text.dropEnd? "\x7d);" line with
  | none => rfl
  | some rest =>
    rw [Text.dropEnd?_eq_some_iff] at hend
    exact absurd (by simp [hend]) h

theorem closesFields_written_of_notMem {unit : Nat} {l : Line} (h : '\x7d' ∉ l.text) :
    closesFields (l.written unit) = false := by
  apply closesFields_of_notMem
  unfold Line.written
  split
  · exact List.not_mem_nil
  · simp [h]

theorem closesFields_written_append (unit depth : Nat) (start : Text) :
    closesFields (Line.written unit ⟨depth, start ++ "\x7d);"⟩) := by
  rw [Line.written, if_neg (by simp), ← List.append_assoc, closesFields, Text.endsWith,
    Text.dropEnd?_eq_some_iff.mpr rfl]
  rfl

theorem opensFields_written {unit : Nat} {l : Line} {rest : Text}
    (h : l.text = RecordClass.fieldsHead ++ rest) : opensFields (l.written unit) := by
  have hhead : unindent (RecordClass.fieldsHead ++ rest) = RecordClass.fieldsHead ++ rest :=
    unindent_of_head (fun hspace => by cases hspace)
  rw [opensFields, Line.unindent_written, h, hhead, Text.dropStart?_eq_some_iff.mpr rfl]
  rfl

theorem listedName_written {unit depth : Nat} {name : Text} (hspace : ' ' ∉ name)
    (hcomma : ',' ∉ name) :
    listedName (Line.written unit ⟨depth, name⟩) = name ∧
      listedName (Line.written unit ⟨depth, name ++ ","⟩) = name := by
  have hhead {text : Text} (htext : ' ' ∉ text) : unindent text = text :=
    unindent_of_head fun h => htext (List.mem_of_mem_head? h)
  have hnone : Text.dropEnd? "," name = none := by
    rw [Option.eq_none_iff_forall_ne_some]
    intro rest hrest
    rw [Text.dropEnd?_eq_some_iff] at hrest
    exact hcomma (by simp [hrest])
  have hsome : Text.dropEnd? "," (name ++ ",") = some name := Text.dropEnd?_eq_some_iff.mpr rfl
  constructor
  · rw [listedName, Line.unindent_written, hhead hspace, hnone]
    rfl
  · rw [listedName, Line.unindent_written, hhead (by simp [hspace]), hsome]
    rfl

end Sections

namespace RecordClass

/-- The lines before the list of all constants. -/
def beforeFields (c : RecordClass) (baseRecord : Text) : List Line :=
  headerLines ++ prologueLines baseRecord c.package ++
    [⟨0, c.declaration baseRecord ++ " \x7b"⟩, ⟨1, []⟩] ++
    c.fields.map (fun f => ⟨1, constantLine c.name f⟩) ++ [⟨1, []⟩]

/-- The lines behind the list of all constants. -/
def afterFields (c : RecordClass) : List Line := c.members.flatMap memberLines ++ [⟨0, "\x7d"⟩]

theorem fileLines_eq (c : RecordClass) (s : Settings) :
    c.fileLines s = c.beforeFields s.baseRecord ++
      (fieldsLines s.indentWidth 1 s.maxLineWidth (c.fields.map Field.constant) ++
        c.afterFields) := by
  simp [fileLines, sourceLines, headLines, beforeFields, afterFields]

theorem inked_separated (names : List Text) :
    (separated names).flatMap inked = inked (List.intercalate ", " names) := by
  fun_induction separated names with
  | case1 => rfl
  | case2 name => simp
  | case3 name names hne ih =>
    obtain ⟨next, rest, rfl⟩ := List.exists_cons_of_ne_nil hne
    have hcomma : inked ", " = inked "," := rfl
    rw [List.flatMap_cons, ih, List.intercalate_cons_cons, inked_append, inked_append, inked_append,
      hcomma]

/-- Both ways to declare the list of all constants write the same tokens. -/
theorem inked_fieldsLines (unit depth maxLineWidth : Nat) (constants : List Text) :
    ((fieldsLines unit depth maxLineWidth constants).flatMap fun l => inked l.text) =
      inked (fieldsSingle constants) := by
  by_cases hfits : unit * depth + (fieldsSingle constants).length ≤ maxLineWidth
  · rw [fieldsLines, if_pos hfits]
    simp
  · have hnames := inked_separated constants
    rw [fieldsLines, if_neg hfits]
    simp only [List.flatMap_cons, List.flatMap_append, List.flatMap_map, List.flatMap_nil, hnames,
      fieldsSingle, inked_append, List.append_assoc, List.append_nil]

theorem inked_source (c : RecordClass) (s : Settings) :
    inked (c.source s) =
      (c.beforeFields s.baseRecord).flatMap (fun l => inked l.text) ++
        (inked (fieldsSingle (c.fields.map Field.constant)) ++
          c.afterFields.flatMap fun l => inked l.text) := by
  rw [source_eq_fileLines, inked_renderLines, fileLines_eq, List.flatMap_append,
    List.flatMap_append, inked_fieldsLines]

theorem opensFields_beforeFields (c : RecordClass) (baseRecord : Text) (unit : Nat) :
    ∀ l ∈ c.beforeFields baseRecord, Sections.opensFields (l.written unit) = false := by
  have htext (l : Line) (h : Text.dropStart? fieldsHead (unindent l.text) = none) :
      Sections.opensFields (l.written unit) = false := by
    rw [Sections.opensFields, Line.unindent_written, h]
    rfl
  have hprologue : ∀ l ∈ prologueLines baseRecord c.package,
      Text.dropStart? fieldsHead (unindent l.text) = none :=
    forall_mem_prologueLines (p := fun text => Text.dropStart? fieldsHead (unindent text) = none)
      rfl rfl fun _ _ => rfl
  unfold beforeFields
  simp only [List.forall_mem_append, List.forall_mem_cons, List.forall_mem_map]
  refine ⟨⟨⟨⟨?_, fun l hl => htext l (hprologue l hl)⟩, ?_⟩, fun f _ => htext _ rfl⟩, ?_⟩
  · have hheader : ∀ l ∈ headerLines, Text.dropStart? fieldsHead (unindent l.text) = none := by
      decide
    exact fun l hl => htext l (hheader l hl)
  · exact ⟨htext _ rfl, htext _ rfl, by simp⟩
  · exact ⟨htext _ rfl, by simp⟩

/-- The list is read as it was declared, from the names without blanks and commas. -/
theorem declares_fieldsLines (s : Settings) {constants : List Text}
    (h : ∀ name ∈ constants, ' ' ∉ name ∧ ',' ∉ name) :
    Sections.Declares s constants
      ((fieldsLines s.indentWidth 1 s.maxLineWidth constants).map
        (Line.written s.indentWidth)) := by
  have hwritten {text : Text} (htext : text ≠ []) :
      Line.written s.indentWidth ⟨1, text⟩ = List.replicate s.indentWidth ' ' ++ text := by
    rw [Line.written, if_neg htext, Nat.mul_one]
  have hnames : (separated constants).map
      (fun text => Sections.listedName (Line.written s.indentWidth ⟨2, text⟩)) = constants := by
    fun_induction separated constants with
    | case1 => rfl
    | case2 name =>
      have hname := h name (by simp)
      rw [List.map_singleton, (Sections.listedName_written hname.1 hname.2).1]
    | case3 name names hne ih =>
      rw [List.forall_mem_cons] at h
      rw [List.map_cons, (Sections.listedName_written h.1.1 h.1.2).2, ih h.2]
  by_cases hfits : s.indentWidth * 1 + (fieldsSingle constants).length ≤ s.maxLineWidth
  · have hlines : (fieldsLines s.indentWidth 1 s.maxLineWidth constants).map
        (Line.written s.indentWidth) =
          [List.replicate s.indentWidth ' ' ++ fieldsSingle constants] := by
      rw [fieldsLines, if_pos hfits, List.map_singleton, hwritten (by simp [fieldsSingle])]
    rw [hlines]
    rw [Nat.mul_one] at hfits
    exact ⟨iff_of_true rfl hfits, fun _ => rfl, fun hmany => absurd rfl hmany⟩
  · have hlines : (fieldsLines s.indentWidth 1 s.maxLineWidth constants).map
        (Line.written s.indentWidth) =
          (List.replicate s.indentWidth ' ' ++ (fieldsHead ++ " \x7b")) ::
            ((separated constants).map (fun text => Line.written s.indentWidth ⟨2, text⟩) ++
              [List.replicate s.indentWidth ' ' ++ "\x7d);"]) := by
      rw [fieldsLines, if_neg hfits, List.map_cons, List.map_append, List.map_map,
        hwritten (by simp), List.map_singleton, hwritten (by decide)]
      rfl
    rw [hlines]
    rw [Nat.mul_one] at hfits
    refine ⟨iff_of_false ?_ hfits, fun hone => absurd hone ?_, fun _ => ⟨_, rfl, ?_⟩⟩
    · simp
    · simp
    · rw [List.map_map]
      exact hnames

end RecordClass

namespace Accepted

open RecordClass

variable {s : Settings} {t : Template}

/-- The declaration is found where it was written. -/
theorem sections_source (h : Accepted s t) :
    Sections.read ((t.recordClass s).source s) =
      ⟨((t.recordClass s).beforeFields s.baseRecord).map (Line.written s.indentWidth),
        (fieldsLines s.indentWidth 1 s.maxLineWidth (t.fields.map Field.constant)).map
          (Line.written s.indentWidth),
        (t.recordClass s).afterFields.map (Line.written s.indentWidth) ++ [[]]⟩ := by
  have hsplit : Text.split '\n' ((t.recordClass s).source s) =
      ((t.recordClass s).beforeFields s.baseRecord).map (Line.written s.indentWidth) ++
        ((fieldsLines s.indentWidth 1 s.maxLineWidth (t.fields.map Field.constant)).map
          (Line.written s.indentWidth) ++
          ((t.recordClass s).afterFields.map (Line.written s.indentWidth) ++ [[]])) := by
    have hlines : ∀ line ∈ ((t.recordClass s).fileLines s).map (Line.written s.indentWidth),
        '\n' ∉ line := by
      rw [List.forall_mem_map]
      exact fun l hl => Line.newline_notMem_written (h.newline_notMem_fileLines l hl)
    have hpieces := Text.split_unlines hlines []
    rw [List.append_nil] at hpieces
    rw [source_eq_fileLines, renderLines_eq_unlines, hpieces, fileLines_eq,
      Template.fields_recordClass]
    simp only [List.map_append, List.append_assoc]
    rfl
  have hbefore : ∀ line ∈
      ((t.recordClass s).beforeFields s.baseRecord).map (Line.written s.indentWidth),
      Sections.opensFields line = false := by
    rw [List.forall_mem_map]
    exact opensFields_beforeFields (t.recordClass s) s.baseRecord s.indentWidth
  by_cases hfits : s.indentWidth * 1 + (fieldsSingle (t.fields.map Field.constant)).length ≤
      s.maxLineWidth
  · have hsingle : fieldsSingle (t.fields.map Field.constant) = fieldsHead ++ (" \x7b" ++
        (List.intercalate ", " (t.fields.map Field.constant) ++ "\x7d);")) := by
      simp [fieldsSingle]
    rw [fieldsLines, if_pos hfits, List.map_singleton] at hsplit ⊢
    refine @Sections.read_of_parts _ _ [] _ _ hsplit hbefore ?_ (by simp) ?_
    · simpa using Sections.opensFields_written hsingle
    · exact Sections.closesFields_written_append _ _ _
  · rw [fieldsLines, if_neg hfits, List.map_cons, List.map_append, List.map_singleton] at hsplit ⊢
    rw [← List.cons_append] at hsplit ⊢
    rw [List.append_assoc, List.singleton_append] at hsplit
    refine Sections.read_of_parts hsplit hbefore ?_ ?_ ?_
    · simpa using Sections.opensFields_written rfl
    · rw [List.forall_mem_cons, List.map_map, List.forall_mem_map]
      refine ⟨Sections.closesFields_written_of_notMem (by decide), fun line hline => ?_⟩
      apply Sections.closesFields_written_of_notMem
      obtain ⟨name, hname, hline⟩ := mem_separated hline
      obtain ⟨f, hf, rfl⟩ := List.mem_map.mp hname
      have hword := Text.notMem_of_all (c := '\x7d') (h.valid.fields f hf).constant_word (by decide)
      rcases hline with rfl | rfl <;> simp [hword]
    · exact Sections.closesFields_written_append _ _ []

theorem declares_source (h : Accepted s t) :
    Sections.Declares s (t.fields.map Field.constant)
      (Sections.read ((t.recordClass s).source s)).fields := by
  rw [h.sections_source]
  apply declares_fieldsLines
  rw [List.forall_mem_map]
  intro f hf
  have hword := (h.valid.fields f hf).constant_word
  exact ⟨Text.notMem_of_all hword (by decide), Text.notMem_of_all hword (by decide)⟩

end Accepted

namespace CompilationUnit

/-- Settings of the layout change the layout only: they have no part in whether there is a source,
nor in its names and tokens. Around the list of all constants the lines are the same behind their
indentation, and the list is laid out as each setting demands. -/
theorem generate_layout (s : Settings) (t : Template) (indentWidth maxLineWidth : Nat) :
    let s' := { s with indentWidth := indentWidth, maxLineWidth := maxLineWidth }
    (∃ e, generate s t = .error e ∧ generate s' t = .error e) ∨
      ∃ u u', generate s t = .ok u ∧ generate s' t = .ok u' ∧
        u.package = u'.package ∧ u.className = u'.className ∧ inked u.source = inked u'.source ∧
        (Sections.read u.source).before.map unindent =
          (Sections.read u'.source).before.map unindent ∧
        (Sections.read u.source).after.map unindent =
          (Sections.read u'.source).after.map unindent ∧
        Sections.Declares s (t.fields.map Field.constant) (Sections.read u.source).fields ∧
        Sections.Declares s' (t.fields.map Field.constant) (Sections.read u'.source).fields := by
  intro s'
  have hclass : RecordClass.ofTemplate s' t = RecordClass.ofTemplate s t := rfl
  cases hc : RecordClass.ofTemplate s t with
  | error e =>
    have hfails {s : Settings} (h : RecordClass.ofTemplate s t = .error e) :
        generate s t = .error e := by
      rw [generate, h]
      rfl
    exact .inl ⟨e, hfails hc, hfails (hclass.trans hc)⟩
  | ok c =>
    obtain ⟨h, rfl⟩ := RecordClass.ofTemplate_eq_ok_iff.mp hc
    obtain ⟨h', -⟩ := RecordClass.ofTemplate_eq_ok_iff.mp (hclass.trans hc)
    have hunindent (unit : Nat) (lines : List Line) :
        (lines.map (Line.written unit)).map unindent = lines.map fun l => unindent l.text := by
      rw [List.map_map]
      exact List.map_congr_left fun l _ => l.unindent_written unit
    refine .inr ⟨_, _, generate_eq_ok_iff.mpr ⟨h, rfl⟩, generate_eq_ok_iff.mpr ⟨h', rfl⟩, rfl, rfl,
      ?_, ?_, ?_, h.declares_source, h'.declares_source⟩
    · exact (RecordClass.inked_source _ s).trans (RecordClass.inked_source _ s').symm
    · have hbefore := congrArg Sections.before h.sections_source
      have hbefore' := congrArg Sections.before h'.sections_source
      simp only [RecordClass.unit, hbefore, hbefore', hunindent]
      rfl
    · have hafter := congrArg Sections.after h.sections_source
      have hafter' := congrArg Sections.after h'.sections_source
      simp only [RecordClass.unit, hafter, hafter', List.map_append, hunindent]
      rfl

end CompilationUnit
end TupleRecord
