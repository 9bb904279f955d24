import Mathlib.Data.List.Forall2
import TupleRecord.CompilationUnit.Basic
import TupleRecord.Proofs.Java.Reader
import TupleRecord.Proofs.RecordClass.PlainCode

/-!
The shape of a record, read back from its source: the package, the name of the class and the
parameters of its last constructor, one per field. Whatever the settings and the documentation,
the source of a template is read as the shape of the template, so no two shapes share a source.
-/
namespace TupleRecord

open Java

/-- What a source says about the record: its package, its class and the types and names of its
fields. -/
structure Shape where
  package : Text
  className : Text
  fields : List Param
  deriving DecidableEq, Repr

/-- The shape of the record that a template describes. -/
def Template.shape (s : Settings) (t : Template) : Shape :=
  ⟨t.package, t.className s, t.fields.map fun f => f.column.param⟩

namespace Shape

/-- Ends the name in the declaration of a class or a constructor. -/
def endsName (c : Char) : Bool := c == ' ' || c == '('

/-- How the line of a constructor begins. -/
def constructorStart (className : Text) : Text := "public " ++ className ++ "("

/-- A line that declares no constructor of the class. -/
def NoConstructor (className line : Text) : Prop :=
  Text.dropStart? (constructorStart className) (unindent line) = none

/-- What the constructors of a class declare, behind the opening bracket. -/
def signatures (className : Text) (lines : List Text) : List Text :=
  lines.filterMap (Text.dropStart? (constructorStart className))

/-- The package that the line behind the header and an empty line names, if it does. -/
def readPackage (lines : List Text) : Text :=
  ((lines[7]?.bind (Text.dropStart? "package ")).bind (Text.dropEnd? ";")).getD []

/-- Reads the shape of a record from its source. -/
def read (source : Text) : Option Shape := do
  let lines := readLines source
  let declaration ← lines.findSome? (Text.dropStart? "public class ")
  let className := declaration.takeWhile (· != ' ')
  let signature ← (signatures className lines)[3]?
  return ⟨readPackage lines, className, readParams (signature.takeWhile (· != ')'))⟩

end Shape

namespace Text

theorem dropStart?_cons_of_head {c : Char} {start text : Text} (h : text.head? ≠ some c) :
    dropStart? (c :: start) text = none := by
  cases text with
  | nil => rfl
  | cons d text => exact if_neg fun hcd => h (congrArg some hcd.symm)

end Text

namespace Shape

/-- A word behind `public` that a blank ends is no constructor. -/
theorem dropStart?_constructorStart_word {className word rest : Text}
    (hname : ∀ c ∈ className, endsName c = false) (hword : word.all (!endsName ·)) :
    Text.dropStart? (constructorStart className) ("public " ++ (word ++ ' ' :: rest)) = none := by
  have hword : ∀ c ∈ word, endsName c = false := by
    intro c hc
    simpa using List.all_eq_true.mp hword c hc
  rw [Option.eq_none_iff_forall_ne_some]
  intro r h
  have hstart : constructorStart className ++ r = "public " ++ (className ++ '(' :: r) := by
    unfold constructorStart
    simp
  have htext := Text.dropStart?_eq_some_iff.mp h
  rw [hstart] at htext
  obtain ⟨-, hstop, -⟩ := Text.append_cons_inj hword hname (by decide) (by decide)
    (List.append_cancel_left htext)
  cases hstop

theorem noConstructor_of_notMem (className : Text) {line : Text} (h : '(' ∉ line) :
    NoConstructor className line := by
  apply Text.dropStart?_eq_none_of_notMem (c := '(')
  · exact List.mem_append_right _ (by decide)
  · exact fun hmem => h ((List.dropWhile_suffix _).subset hmem)

theorem signatures_append (className : Text) (a b : List Text) :
    signatures className (a ++ b) = signatures className a ++ signatures className b :=
  List.filterMap_append

theorem signatures_eq_nil {className : Text} {lines : List Text}
    (h : ∀ line ∈ lines, Text.dropStart? (constructorStart className) line = none) :
    signatures className lines = [] :=
  List.filterMap_eq_nil_iff.mpr h

/-- A constructor is read as one signature, if no line of its body looks like another. -/
theorem signatures_constructor (c : RecordClass) (params : List Param) (body : Code)
    (hbody : ∀ l ∈ body.lines 2, (unindent l.text).head? ≠ some 'p') :
    signatures c.name
      ((RecordClass.memberLines (c.constructor params body)).map fun l => unindent l.text) =
        [List.intercalate ", " (params.map Param.text) ++ ") \x7b"] := by
  have hlines : (RecordClass.memberLines (c.constructor params body)).map
      (fun l => unindent l.text) =
        [[]] ++ [constructorStart c.name ++
          (List.intercalate ", " (params.map Param.text) ++ ") \x7b")] ++
          (body.lines 2).map (fun l => unindent l.text) ++ [("\x7d" : Text)] := by
    have hsignature : (c.constructor params body).signature ++ " \x7b" =
        constructorStart c.name ++ (List.intercalate ", " (params.map Param.text) ++ ") \x7b") := by
      unfold constructorStart
      simp [Method.signature, RecordClass.constructor]
    have hpublic : unindent ((c.constructor params body).signature ++ " \x7b") =
        (c.constructor params body).signature ++ " \x7b" := rfl
    have hmember : RecordClass.memberLines (c.constructor params body) =
        ⟨1, []⟩ :: ⟨1, (c.constructor params body).signature ++ " \x7b"⟩ ::
          (body.lines 2 ++ [⟨1, "\x7d"⟩]) := rfl
    rw [hmember, ← hsignature]
    simp only [List.map_cons, List.map_append, hpublic, List.map_nil]
    rfl
  have hstart : signatures c.name [constructorStart c.name ++
      (List.intercalate ", " (params.map Param.text) ++ ") \x7b")] =
        [List.intercalate ", " (params.map Param.text) ++ ") \x7b"] := by
    rw [signatures, List.filterMap_cons_some (Text.dropStart?_eq_some_iff.mpr rfl)]
    rfl
  have hlines' : signatures c.name ((body.lines 2).map fun l => unindent l.text) = [] :=
    signatures_eq_nil (List.forall_mem_map.mpr fun l hl =>
      Text.dropStart?_cons_of_head (hbody l hl))
  rw [hlines, signatures_append, signatures_append, signatures_append, hstart, hlines']
  rfl

end Shape

namespace RecordClass

/-- The lines before the accessors. Documentation comes behind them only. -/
def openingLines (c : RecordClass) (s : Settings) : List Line :=
  headerLines ++ c.headLines s ++ c.constructors.flatMap memberLines

theorem source_eq_openingLines (c : RecordClass) (s : Settings) :
    c.source s = renderLines s.indentWidth (c.openingLines s) ++
      renderLines s.indentWidth (c.accessors.flatMap memberLines ++ [⟨0, "\x7d"⟩]) := by
  rw [source_eq, header_eq s.indentWidth, ← renderLines_append, ← renderLines_append]
  simp [openingLines, sourceLines, members]

end RecordClass

namespace Accepted

open RecordClass Shape

variable {s : Settings} {t : Template}

theorem newline_notMem_openingLines (h : Accepted s t) :
    ∀ l ∈ (t.recordClass s).openingLines s, '\n' ∉ l.text := by
  intro l hl
  apply h.newline_notMem_fileLines l
  rw [openingLines, List.append_assoc, List.mem_append, List.mem_append] at hl
  rw [fileLines, sourceLines, members, List.flatMap_append]
  simp only [List.mem_append]
  tauto

theorem notMem_className (h : Accepted s t) {c : Char} (hc : Name.isWordChar c = false) :
    c ∉ t.className s :=
  Text.notMem_of_all (Name.all_isWordChar_of_isUsable h.className) hc

/-- The class name has neither of the characters that end it. -/
theorem className_stops (h : Accepted s t) : ∀ c ∈ t.className s, endsName c = false := by
  intro c hc
  rw [endsName, Bool.or_eq_false_iff, beq_eq_false_iff_ne, beq_eq_false_iff_ne]
  constructor
  · rintro rfl
    exact h.notMem_className (by decide) hc
  · rintro rfl
    exact h.notMem_className (by decide) hc

theorem noConstructor_word (h : Accepted s t) (word : Text) (hword : word.all (!endsName ·))
    (rest : Text) : NoConstructor (t.className s) ("public " ++ (word ++ ' ' :: rest)) :=
  dropStart?_constructorStart_word h.className_stops hword

/-- Nothing before the members looks like a constructor. The list of all constants may be on many
lines, but names are all that the further lines have. -/
theorem noConstructor_headLines (h : Accepted s t) :
    ∀ l ∈ (t.recordClass s).headLines s, NoConstructor (t.className s) l.text := by
  have hprologue : ∀ l ∈ prologueLines s.baseRecord t.package,
      NoConstructor (t.className s) l.text :=
    forall_mem_prologueLines (p := NoConstructor (t.className s)) rfl rfl fun _ _ => rfl
  have hclass (rest : Text) := h.noConstructor_word "class" (by decide) rest
  have hstatic (rest : Text) := h.noConstructor_word "static" (by decide) rest
  have hnames : ∀ name ∈ t.fields.map Field.constant,
      NoConstructor (t.className s) name ∧ NoConstructor (t.className s) (name ++ ",") := by
    rw [List.forall_mem_map]
    intro f hf
    have hopen : '(' ∉ f.constant :=
      Text.notMem_of_all (h.valid.fields f hf).constant_word (by decide)
    exact ⟨noConstructor_of_notMem _ hopen, noConstructor_of_notMem _ (by simp [hopen])⟩
  refine forall_mem_headLines (p := NoConstructor (t.className s)) hprologue rfl (hclass _)
    (fun f _ => hstatic _) ?_
  rw [Template.fields_recordClass]
  exact forall_mem_fieldsLines (hstatic _) (hstatic _) hnames rfl

theorem signatures_headLines (h : Accepted s t) :
    signatures (t.className s)
      ((headerLines ++ (t.recordClass s).headLines s).map fun l => unindent l.text) = [] := by
  have hheader : ∀ l ∈ headerLines, (unindent l.text).head? ≠ some 'p' := by decide
  apply signatures_eq_nil
  rw [List.forall_mem_map, List.forall_mem_append]
  exact ⟨fun l hl => Text.dropStart?_cons_of_head (hheader l hl), h.noConstructor_headLines⟩

/-- The constructors are read in the order they are declared in, with all they declare. -/
theorem signatures_constructors (s : Settings) (t : Template) :
    signatures (t.className s)
      (((t.recordClass s).constructors.flatMap memberLines).map fun l => unindent l.text) =
        [(") \x7b" : Text), ("Tuple tuple) \x7b" : Text), ("TupleEntry tupleEntry) \x7b" : Text),
          List.intercalate ", " ((t.shape s).fields.map Param.text) ++ ") \x7b"] := by
  have hempty := signatures_constructor (t.recordClass s) [] (.ofLines [superFields]) (by decide)
  have htuple := signatures_constructor (t.recordClass s) [⟨"Tuple", "tuple"⟩]
    (.ofLines ["super(" ++ Tuple.fieldsConstant ++ ", tuple);"]) (by decide)
  have hentry := signatures_constructor (t.recordClass s) [⟨"TupleEntry", "tupleEntry"⟩]
    (.ofLines ["super(tupleEntry);", "validateFields(tupleEntry, " ++ Tuple.fieldsConstant ++ ");"])
    (by decide)
  have hvalues := signatures_constructor (t.recordClass s)
    ((t.recordClass s).columns.map Column.param)
    (.line superFields <| .blank <| .ofLines (t.fields.map assignment)) (by
      simp only [Code.lines, Code.lines_ofLines, List.map_map, List.forall_mem_cons,
        List.forall_mem_map]
      refine ⟨by decide, by decide, fun f _ hassigned => ?_⟩
      cases hassigned)
  have hvalue : (t.recordClass s).valueConstructor = (t.recordClass s).constructor
      ((t.recordClass s).columns.map Column.param)
      (.line superFields <| .blank <| .ofLines (t.fields.map assignment)) := by
    rw [valueConstructor, Template.fields_recordClass]
  have hparams : (t.recordClass s).columns.map Column.param = (t.shape s).fields := by
    simp [Template.recordClass, Template.shape]
  have hmembers : ((t.recordClass s).constructors.flatMap memberLines) =
      memberLines (t.recordClass s).emptyConstructor ++
        (memberLines (t.recordClass s).tupleConstructor ++
          (memberLines (t.recordClass s).entryConstructor ++
            memberLines (t.recordClass s).valueConstructor)) := by
    simp [constructors]
  rw [hvalue, hparams] at hmembers
  rw [hparams] at hvalues
  rw [hmembers, List.map_append, List.map_append, List.map_append, signatures_append,
    signatures_append, signatures_append]
  refine (congrArg₂ _ hempty (congrArg₂ _ htuple (congrArg₂ _ hentry hvalues))).trans ?_
  rfl

theorem openingLines_eq (s : Settings) (t : Template) :
    ∃ rest, (t.recordClass s).openingLines s =
      headerLines ++ (prologueLines s.baseRecord t.package ++
        ⟨0, "public class " ++ (t.className s ++ ' ' ::
          ("extends " ++ Name.simple s.baseRecord ++ " \x7b"))⟩ :: rest) := by
  have hdeclaration : (t.recordClass s).declaration s.baseRecord ++ " \x7b" =
      "public class " ++ (t.className s ++ ' ' ::
        ("extends " ++ Name.simple s.baseRecord ++ " \x7b")) := by
    unfold declaration
    simp [Template.recordClass]
  unfold openingLines headLines
  rw [hdeclaration]
  simp only [List.append_assoc, List.cons_append]
  exact ⟨_, rfl⟩

/-- The package is read from its place, which holds an import if there is no package. -/
theorem readPackage_eq (s : Settings) (t : Template) (rest : List Text) :
    readPackage (((t.recordClass s).openingLines s).map (fun l => unindent l.text) ++ rest) =
      t.package := by
  obtain ⟨lines, hlines⟩ := openingLines_eq s t
  rw [hlines]
  by_cases hempty : t.package = []
  · rw [hempty]
    rfl
  · have hprologue : ∃ imported, prologueLines s.baseRecord t.package =
        ⟨0, []⟩ :: ⟨0, "package " ++ t.package ++ ";"⟩ :: imported := by
      unfold prologueLines
      rw [if_neg hempty]
      exact ⟨_, rfl⟩
    obtain ⟨imported, himported⟩ := hprologue
    have hend : Text.dropEnd? ";" (t.package ++ ";") = some t.package :=
      Text.dropEnd?_eq_some_iff.mpr rfl
    rw [himported]
    refine Eq.trans ?_ (congrArg (Option.getD · []) hend)
    rfl

/-- The class is read from the first line that declares one. -/
theorem findSome?_declaration (s : Settings) (t : Template) (rest : List Text) :
    ∃ declared, (((t.recordClass s).openingLines s).map (fun l => unindent l.text) ++
      rest).findSome? (Text.dropStart? "public class ") = some (t.className s ++ ' ' :: declared) := by
  obtain ⟨lines, hlines⟩ := openingLines_eq s t
  have hheader : (headerLines.map fun l => unindent l.text).findSome?
      (Text.dropStart? "public class ") = none := by
    decide
  have hprologue : ((prologueLines s.baseRecord t.package).map fun l => unindent l.text).findSome?
      (Text.dropStart? "public class ") = none := by
    rw [List.findSome?_eq_none_iff, List.forall_mem_map]
    exact forall_mem_prologueLines (p := fun text =>
      Text.dropStart? "public class " (unindent text) = none) rfl rfl fun name _ => rfl
  refine ⟨"extends " ++ Name.simple s.baseRecord ++ " \x7b", ?_⟩
  rw [hlines, List.map_append, List.map_append, List.append_assoc, List.findSome?_append, hheader,
    List.append_assoc, List.findSome?_append, hprologue]
  rfl

theorem shape_fields (h : Accepted s t) :
    ∀ p ∈ (t.shape s).fields, p.type ≠ [] ∧ ' ' ∉ p.type ∧ ',' ∉ p.text ∧ ')' ∉ p.text := by
  unfold Template.shape
  rw [List.forall_mem_map]
  intro f hf
  have hvalid := h.valid.fields f hf
  have htype : ∀ c, Name.isTypeChar c = false → c ∉ f.column.param.type :=
    fun _ => Text.notMem_of_all (FieldType.all_isTypeChar_sourceName hvalid.type)
  have hname : ∀ c, Name.isWordChar c = false → c ∉ f.column.param.name :=
    fun _ => Text.notMem_of_all hvalid.bareName_word
  have htext : ∀ c, Name.isTypeChar c = false → Name.isWordChar c = false → c ≠ ' ' →
      c ∉ f.column.param.text := by
    intro c hc hc' hspace
    simp [Param.text, htype c hc, hname c hc', hspace]
  exact ⟨FieldType.sourceName_ne_nil hvalid.type, htype ' ' (by decide),
    htext ',' (by decide) (by decide) (by decide), htext ')' (by decide) (by decide) (by decide)⟩

/-- A source is read as the shape of its template. -/
theorem read_source (h : Accepted s t) :
    Shape.read ((t.recordClass s).source s) = some (t.shape s) := by
  have hfields := h.shape_fields
  have hnonempty : (t.shape s).fields ≠ [] := by
    intro hnil
    exact h.valid.declares (List.map_eq_nil_iff.mp hnil)
  have hclose : ')' ∉ List.intercalate ", " ((t.shape s).fields.map Param.text) :=
    Text.notMem_intercalate (by decide) (List.forall_mem_map.mpr fun p hp => (hfields p hp).2.2.2)
  have hparams : (List.intercalate ", " ((t.shape s).fields.map Param.text) ++
      ") \x7b").takeWhile (· != ')') =
        List.intercalate ", " ((t.shape s).fields.map Param.text) :=
    (Text.takeWhile_append_cons hclose _).1
  have hread := readParams_intercalate hnonempty fun p hp =>
    ⟨(hfields p hp).1, (hfields p hp).2.1, (hfields p hp).2.2.1⟩
  obtain ⟨declared, hdeclared⟩ := findSome?_declaration s t
    (readLines (renderLines s.indentWidth
      ((t.recordClass s).accessors.flatMap memberLines ++ [⟨0, "\x7d"⟩])))
  have hclass := (Text.takeWhile_append_cons (h.notMem_className (c := ' ') (by decide)) declared).1
  have hlines := readLines_renderLines s.indentWidth h.newline_notMem_openingLines
    (renderLines s.indentWidth ((t.recordClass s).accessors.flatMap memberLines ++ [⟨0, "\x7d"⟩]))
  have hsignature : (signatures (t.className s)
      (readLines ((t.recordClass s).source s)))[3]? =
        some (List.intercalate ", " ((t.shape s).fields.map Param.text) ++ ") \x7b") := by
    rw [source_eq_openingLines, hlines, openingLines, List.map_append, List.append_assoc,
      signatures_append, h.signatures_headLines, signatures_append, signatures_constructors]
    rfl
  have hpackage : readPackage (readLines ((t.recordClass s).source s)) = t.package := by
    rw [source_eq_openingLines, hlines, readPackage_eq]
  rw [← hlines, ← source_eq_openingLines] at hdeclared
  unfold Shape.read
  simp only [hdeclared, Option.bind_eq_bind, Option.bind_some, hclass, hsignature, hparams, hread,
    hpackage]
  rfl

end Accepted

namespace CompilationUnit

variable {s : Settings}

theorem generate_shape {t : Template} {u : CompilationUnit} (h : generate s t = .ok u) :
    Shape.read u.source = some (t.shape s) := by
  obtain ⟨haccepted, rfl⟩ := generate_eq_ok_iff.mp h
  exact haccepted.read_source

/-- Templates with the same source describe the same record: nothing of its shape is lost. -/
theorem generate_source_inj {t t' : Template} {u u' : CompilationUnit}
    (h : generate s t = .ok u) (h' : generate s t' = .ok u') (hsource : u.source = u'.source) :
    t.package = t'.package ∧ u.className = u'.className ∧ t.fields.length = t'.fields.length ∧
      List.Forall₂ (fun f g => f.bareName = g.bareName ∧ f.type.sourceName = g.type.sourceName)
        t.fields t'.fields := by
  have hshape : t.shape s = t'.shape s := by
    have hread := generate_shape h
    rw [hsource, generate_shape h'] at hread
    exact (Option.some.inj hread).symm
  obtain ⟨hpackage, hclass, hfields⟩ := Shape.mk.inj hshape
  obtain ⟨-, rfl⟩ := generate_eq_ok_iff.mp h
  obtain ⟨-, rfl⟩ := generate_eq_ok_iff.mp h'
  refine ⟨hpackage, hclass, ?_, ?_⟩
  · simpa using congrArg List.length hfields
  · have hparams : List.Forall₂ (fun f g => f.column.param = g.column.param) t.fields t'.fields := by
      rw [← List.forall₂_eq_eq_eq, List.forall₂_map_left_iff, List.forall₂_map_right_iff] at hfields
      exact hfields
    refine hparams.imp fun f g hparam => ?_
    obtain ⟨htype, hname⟩ := Param.mk.inj hparam
    exact ⟨hname, htype⟩

/-- A template with fields of four types, of which two may have a marker. -/
def counter (name marker : Text) : Template where
  package := "com.example"
  name := name
  fields :=
    [⟨marker ++ "count", .primitive .int, none⟩,
     ⟨"tags", .array "java.lang.String", some "In any order."⟩,
     ⟨marker ++ "kind", .enumeration "com.example.Outer$Kind", none⟩,
     ⟨"limit", .boxed .long, none⟩]

theorem generate_source_inj_counter :
    ∃ u u', generate {} (counter "CounterDatumTemplate" []) = .ok u ∧
      generate {} (counter "CounterDatum" "__") = .ok u' ∧ u.source = u'.source ∧
      u.className = u'.className ∧
      List.Forall₂ (fun f g => f.bareName = g.bareName ∧ f.type.sourceName = g.type.sourceName)
        (counter "CounterDatumTemplate" []).fields (counter "CounterDatum" "__").fields := by
  have haccepted : Accepted {} (counter "CounterDatumTemplate" []) ∧
      Accepted {} (counter "CounterDatum" "__") := by
    decide +kernel
  have h := generate_eq_ok_iff.mpr ⟨haccepted.1, rfl⟩
  have h' := generate_eq_ok_iff.mpr ⟨haccepted.2, rfl⟩
  have hsource : (((counter "CounterDatumTemplate" []).recordClass {}).unit {}).source =
      (((counter "CounterDatum" "__").recordClass {}).unit {}).source := by
    decide +kernel
  obtain ⟨-, hclass, -, hfields⟩ := generate_source_inj h h' hsource
  exact ⟨_, _, h, h', hsource, hclass, hfields⟩

end CompilationUnit
end TupleRecord
