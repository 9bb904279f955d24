import TupleRecord.Proofs.Java.Nesting
import TupleRecord.Proofs.Java.Spacing
import TupleRecord.Proofs.RecordClass.Sections

/-!
The layout of a source. Every source is well nested, each line of code is indented by the blocks
around it, and empty lines and blanks stand only where they separate something. The parts of the
source (the lines before the list of all constants, the list in either layout, and the members) are
read one by one, each from the nesting that the one before it leaves.
-/
namespace TupleRecord

open Java

/-- The lines of a source that is well nested and laid out without idle blanks or empty lines. -/
structure Tidy (unit : Nat) (lines : List Text) : Prop where
  nested : Nested unit .start lines .start
  closes : ∃ body, lines = body ++ [("\x7d" : Text)] ∧
    Nesting.start.read? (Text.unlines body) = some ⟨.code, 1⟩
  trimmed : ∀ (i : Nat) (line : Text), lines[i]? = some line → Trimmed line ∨ i = 2 ∧ line = " * "
  spaced : Spaced lines

theorem Field.Valid.statement_constant {f : Field} (h : f.Valid) : Statement f.constant := by
  have hne : f.constant ≠ [] := by simp [Field.constant, Name.constant, Name.constantEnding]
  have htype := Text.all_mono h.constant_word fun _ => Name.isTypeChar_of_isWordChar
  exact ⟨h.flat_constant, begins_of_type htype hne, ends_append (by decide) _⟩

namespace Storage

theorem spaced_unpack (sourceType loaded : Text) (storage : Storage) :
    (storage.unpack sourceType loaded).Spaced := by
  cases storage with
  | nestedTuple element => exact ⟨trivial, rfl, trivial, rfl, trivial⟩
  | ordinal | epochMillis | uuidText | int32 | int64 | direct getter => exact trivial

end Storage

namespace RecordClass

theorem written_headerLines (unit : Nat) :
    headerLines.map (Line.written unit) = headerLines.map Line.text := by
  apply List.map_congr_left
  intro l hl
  have hdepth : l.depth = 0 := by
    revert l
    decide
  unfold Line.written
  split
  · next h => exact h.symm
  · rw [hdepth]
    rfl

theorem nested_header (unit : Nat) :
    Nested unit .start (headerLines.map (Line.written unit)) .start := by
  rw [written_headerLines]
  -- All lines but the first begin inside the comment, where no indentation is asked for.
  have hcomment {n : Nesting} {line : Text} (h : n.cursor = .comment) :
      line ≠ [] → n.cursor.inComment = false → Indented unit n.depth line := by
    intro _ hcode
    rw [h] at hcode
    cases hcode
  refine .cons (fun _ _ => ⟨"/**", by decide, by decide, rfl⟩) rfl ?_
  exact .cons (hcomment rfl) rfl <| .cons (hcomment rfl) rfl <| .cons (hcomment rfl) rfl <|
    .cons (hcomment rfl) rfl <| .cons (hcomment rfl) rfl <| .nil _

/-- The third line of the header ends with a blank, and no other does. -/
theorem trimmed_header : ∀ i : Fin (headerLines.map Line.text).length,
    ∀ line ∈ (headerLines.map Line.text)[i.1]?, Trimmed line ∨ i.1 = 2 ∧ line = " * " := by
  decide

/-- The list of all constants is read from the block of the class back to it, in both layouts. -/
theorem nested_fieldsLines (unit maxLineWidth : Nat) {constants : List Text}
    (h : ∀ name ∈ constants, Statement name) :
    Nested unit ⟨.code, 1⟩
      ((fieldsLines unit 1 maxLineWidth constants).map (Line.written unit)) ⟨.code, 1⟩ := by
  by_cases hfits : unit * 1 + (fieldsSingle constants).length ≤ maxLineWidth
  · have hlist : Flat (List.intercalate ", " constants) :=
      Text.all_intercalate (by decide) fun name hname => (h name hname).flat
    have hread : Nesting.read? ⟨.code, 1⟩ (fieldsSingle constants ++ ['\n']) =
        Nesting.read? ⟨.code, 2⟩ (List.intercalate ", " constants ++ "\x7d);\n") := by
      have hhead : Nesting.read? ⟨.code, 1⟩ (fieldsHead ++ " \x7b") = some ⟨.code, 2⟩ := by
        rw [Nesting.read?_code (by decide)]
        rfl
      rw [fieldsSingle, List.append_assoc, List.append_assoc, Nesting.read?_append, hhead]
      rfl
    rw [fieldsLines, if_pos hfits]
    refine Nested.line rfl rfl ?_
    rw [hread, Nesting.read?_code hlist]
    rfl
  · have hnames : Nested unit ⟨.code, 2⟩
        (((separated constants).map (Line.mk 2)).map (Line.written unit)) ⟨.code, 2⟩ := by
      apply Nested.each
      rw [List.forall_mem_map]
      intro line hline
      obtain ⟨name, hname, rfl | rfl⟩ := mem_separated hline
      · exact .statement (h line hname)
      · exact .statement ((h name hname).append (by decide) (by decide))
    have hopen : Nested unit ⟨.code, 1⟩ [Line.written unit ⟨1, fieldsHead ++ " \x7b"⟩]
        ⟨.code, 2⟩ := .opening (by decide) rfl
    have hclose : Nested unit ⟨.code, 2⟩ [Line.written unit ⟨1, "\x7d);"⟩] ⟨.code, 1⟩ :=
      @Nested.closing unit 1 ");" (by decide)
    rw [fieldsLines, if_neg hfits, List.map_cons, List.map_append]
    exact hopen.append (hnames.append hclose)

theorem nested_memberLines (unit : Nat) {m : Method} (h : m.Formed) :
    Nested unit ⟨.code, 1⟩ ((memberLines m).map (Line.written unit)) ⟨.code, 1⟩ := by
  have hcomment : Nested unit ⟨.code, 1⟩
      ((m.doc.elim [] (Comment.lines 1)).map (Line.written unit)) ⟨.code, 1⟩ := by
    cases m.doc with
    | none => exact .nil _
    | some doc => exact .comment doc
  have hopen := @Nested.opening unit 1 _ h.signature.flat h.signature.begins
  have hbody := @Nested.code unit 2 _ h.body
  have hclose := @Nested.closing unit 1 [] rfl
  have hmember := (Nested.blank unit 1 1).append
    (hcomment.append (hopen.append (hbody.append hclose)))
  simpa [memberLines, Method.lines, Method.codeLines] using hmember

theorem spaced_prologueLines (baseRecord package : Text) {lines : List Text}
    (hhead : ∀ line ∈ lines.head?, Resumes line) (hlines : Spaced lines) :
    Spaced ((prologueLines baseRecord package).map Line.text ++ lines) := by
  have himport (name : Text) : Resumes ("import " ++ name ++ ";") := by
    rw [List.append_assoc]
    exact resumes_append (by decide) _
  have himports : Spaced
      ((imports baseRecord).map (fun name : Text => ("import " ++ name ++ ";" : Text)) ++
        [] :: lines) := by
    refine (spaced_append_of_ne ?_).mpr (spaced_blank.mpr ⟨hhead, hlines⟩)
    exact List.forall_mem_map.mpr fun name _ => (himport name).1
  have hfirst : ∀ line ∈ ((imports baseRecord).map
      (fun name : Text => ("import " ++ name ++ ";" : Text)) ++ [] :: lines).head?,
      Resumes line := by
    have hfields := himport (Tuple.libraryPackage ++ "Fields")
    simpa [imports, Tuple.imports, Tuple.importedTypes] using hfields
  by_cases hnone : package = []
  · have hprologue := spaced_blank.mpr ⟨hfirst, himports⟩
    simpa [prologueLines, hnone, Function.comp_def] using hprologue
  · have hpackage : Resumes ("package " ++ package ++ ";") := by
      rw [List.append_assoc]
      exact resumes_append (by decide) _
    have hnamed := (spaced_cons_of_ne hpackage.1).mpr (spaced_blank.mpr ⟨hfirst, himports⟩)
    have hprologue := spaced_blank.mpr ⟨by simpa using hpackage, hnamed⟩
    simpa [prologueLines, hnone, Function.comp_def] using hprologue

theorem spaced_fieldsLines (unit maxLineWidth : Nat) {constants : List Text}
    (hconstants : ∀ name ∈ constants, name ≠ []) {lines : List Text} (hlines : Spaced lines) :
    Spaced ([] :: ((fieldsLines unit 1 maxLineWidth constants).map Line.text ++ lines)) := by
  have hne : ∀ l ∈ fieldsLines unit 1 maxLineWidth constants, l.text ≠ [] :=
    forall_mem_fieldsLines (p := fun text => text ≠ []) (by simp [fieldsSingle]) (by simp)
      (fun name hname => ⟨hconstants name hname, by simp⟩) (by decide)
  have hhead (rest : Text) : Resumes (fieldsHead ++ rest) := resumes_append (by decide) rest
  refine spaced_blank.mpr ⟨?_, (spaced_append_of_ne (List.forall_mem_map.mpr hne)).mpr hlines⟩
  by_cases hfits : unit * 1 + (fieldsSingle constants).length ≤ maxLineWidth
  · rw [fieldsLines, if_pos hfits]
    have hsingle := hhead (" \x7b" ++ List.intercalate ", " constants ++ "\x7d);")
    simpa [fieldsSingle] using hsingle
  · rw [fieldsLines, if_neg hfits]
    simpa using hhead " \x7b"

/-- A member can follow any part of the class behind an empty line. -/
theorem spaced_memberLines {m : Method} (h : m.Formed) (hspaced : m.body.Spaced)
    {lines : List Text} (hlines : Spaced lines) :
    Spaced ((memberLines m).map Line.text ++ lines) := by
  have hclose : Spaced (("\x7d" : Text) :: lines) := (spaced_cons_of_ne (by decide)).mpr hlines
  have hsignature : m.signature ++ (" \x7b" : Text) ≠ [] := by simp
  have hcode := (spaced_cons_of_ne hsignature).mpr (Code.spaced_lines h.body hspaced 2 hclose)
  have hresumes := h.signature.resumes " \x7b"
  cases hdoc : m.doc with
  | none =>
    have hmember := spaced_blank.mpr ⟨by simpa using hresumes, hcode⟩
    simpa [memberLines, Method.lines, Method.codeLines, hdoc] using hmember
  | some doc =>
    obtain ⟨hdocLines, hdocHead⟩ := Comment.spacing_layout doc
    have hdocumented := (spaced_append_of_ne fun line hline => (hdocLines line hline).1).mpr hcode
    have hhead : ∀ line ∈ (Comment.layout doc ++ (m.signature ++ " \x7b") ::
        ((m.body.lines 2).map Line.text ++ ("\x7d" : Text) :: lines)).head?, Resumes line := by
      cases hlayout : Comment.layout doc with
      | nil => simpa using hresumes
      | cons line layout =>
        rw [hlayout] at hdocHead
        simpa using hdocHead
    have hmember := spaced_blank.mpr ⟨hhead, hdocumented⟩
    simpa [memberLines, Method.lines, Method.codeLines, hdoc, Comment.lines,
      Function.comp_def] using hmember

theorem trimmed_memberLines {m : Method} (h : m.Formed) :
    ∀ l ∈ memberLines m, Trimmed l.text := by
  have hcomment : ∀ l ∈ m.doc.elim [] (Comment.lines 1), Trimmed l.text := by
    cases m.doc with
    | none => simp
    | some doc =>
      rw [Option.elim_some, Comment.lines, List.forall_mem_map]
      exact fun line hline => ((Comment.spacing_layout doc).1 line hline).2
  simp only [memberLines, Method.lines, Method.codeLines, List.forall_mem_cons,
    List.forall_mem_append]
  exact ⟨rfl, hcomment, trimmed_of_ends (ends_append (by decide) _),
    Code.trimmed_lines h.body 2, rfl, by simp⟩

end RecordClass

namespace Accepted

open RecordClass

variable {s : Settings} {t : Template}

theorem statement_constants (h : Accepted s t) :
    ∀ name ∈ t.fields.map Field.constant, Statement name := by
  rw [List.forall_mem_map]
  exact fun f hf => (h.valid.fields f hf).statement_constant

theorem nested_beforeFields (h : Accepted s t) :
    Nested s.indentWidth .start
      (((t.recordClass s).beforeFields s.baseRecord).map (Line.written s.indentWidth))
      ⟨.code, 1⟩ := by
  have hprologue : Nested s.indentWidth .start
      ((prologueLines s.baseRecord t.package).map (Line.written s.indentWidth)) .start := by
    have hdepth : ∀ l ∈ prologueLines s.baseRecord t.package, l.depth = 0 := by
      unfold prologueLines
      simp only [List.forall_mem_append, List.forall_mem_map, List.forall_mem_singleton]
      refine ⟨⟨⟨trivial, ?_⟩, fun _ _ => trivial⟩, trivial⟩
      split <;> simp
    apply Nested.each
    rintro ⟨depth, text⟩ hl
    obtain rfl : depth = 0 := hdepth _ hl
    rcases h.statement_prologueLines _ hl with rfl | hstatement
    · exact .blank _ _ _
    · exact .statement hstatement
  have hopen := @Nested.opening s.indentWidth 0 _ h.flat_declaration rfl
  have hconstants : Nested s.indentWidth ⟨.code, 1⟩
      ((t.fields.map fun f => ⟨1, constantLine (t.className s) f⟩).map
        (Line.written s.indentWidth)) ⟨.code, 1⟩ := by
    apply Nested.each
    rw [List.forall_mem_map]
    intro f hf
    exact .namesInCall (h.namesInCall_constantLine hf) rfl (by rintro ⟨⟩)
  have hblank := Nested.blank s.indentWidth 1 1
  have hbefore := (nested_header s.indentWidth).append (hprologue.append (hopen.append
    (hblank.append (hconstants.append hblank))))
  unfold beforeFields
  rw [Template.fields_recordClass]
  simp only [List.map_append, List.map_cons, List.map_nil, List.append_assoc, List.cons_append,
    List.nil_append] at hbefore ⊢
  exact hbefore

theorem nested_members (h : Accepted s t) :
    Nested s.indentWidth ⟨.code, 1⟩
      (((t.recordClass s).members.flatMap memberLines).map (Line.written s.indentWidth))
      ⟨.code, 1⟩ :=
  .flatMap fun m hm => nested_memberLines s.indentWidth (h.members_formed m hm)

/-- All of a source but its last line leaves the block of the class open. -/
theorem nested_body (h : Accepted s t) :
    Nested s.indentWidth .start
      (((t.recordClass s).beforeFields s.baseRecord ++
        (fieldsLines s.indentWidth 1 s.maxLineWidth (t.fields.map Field.constant) ++
          (t.recordClass s).members.flatMap memberLines)).map (Line.written s.indentWidth))
      ⟨.code, 1⟩ := by
  have hfields := nested_fieldsLines s.indentWidth s.maxLineWidth h.statement_constants
  rw [List.map_append, List.map_append]
  exact h.nested_beforeFields.append (hfields.append h.nested_members)

theorem spaced_bodies (h : Accepted s t) : ∀ m ∈ (t.recordClass s).members, m.body.Spaced := by
  have hvalues : (t.recordClass s).valueConstructor.body.Spaced := by
    have hassigned : (Code.ofLines ((t.recordClass s).fields.map assignment)).beginsWithText := by
      rw [Template.fields_recordClass]
      cases hfields : t.fields with
      | nil => exact absurd hfields h.valid.declares
      | cons f fields => rfl
    exact ⟨hassigned, Code.spaced_ofLines _⟩
  apply forall_mem_members
  · simp only [constructors, List.forall_mem_cons]
    exact ⟨trivial, trivial, trivial, hvalues, by simp⟩
  · intro column _
    exact ⟨trivial, Storage.spaced_unpack _ _ _⟩

theorem spaced_members (h : Accepted s t) :
    Spaced ((t.recordClass s).afterFields.map Line.text) := by
  have hmembers (methods : List Method) (hmethods : ∀ m ∈ methods, m.Formed ∧ m.body.Spaced) :
      Spaced ((methods.flatMap memberLines).map Line.text ++ [("\x7d" : Text)]) := by
    induction methods with
    | nil => exact List.isChain_singleton _
    | cons m methods ih =>
      rw [List.forall_mem_cons] at hmethods
      rw [List.flatMap_cons, List.map_append, List.append_assoc]
      exact spaced_memberLines hmethods.1.1 hmethods.1.2 (ih hmethods.2)
  unfold afterFields
  rw [List.map_append]
  exact hmembers _ fun m hm => ⟨h.members_formed m hm, h.spaced_bodies m hm⟩

theorem spaced_fileLines (h : Accepted s t) :
    Spaced (((t.recordClass s).fileLines s).map Line.text) := by
  have hconstants : ∀ name ∈ t.fields.map Field.constant, name ≠ [] := by
    intro name hname hnil
    have hbegins := (h.statement_constants name hname).begins
    rw [hnil] at hbegins
    cases hbegins
  have hfields := spaced_fieldsLines s.indentWidth s.maxLineWidth hconstants h.spaced_members
  have hconstant (f : Field) : Resumes (constantLine (t.className s) f) := by
    unfold constantLine
    simp only [List.append_assoc]
    exact resumes_append (by decide) _
  have hregistered := (spaced_append_of_ne (a := t.fields.map (constantLine (t.className s)))
    (List.forall_mem_map.mpr fun f _ => (hconstant f).1)).mpr hfields
  have hclass : ∀ line ∈ (t.fields.map (constantLine (t.className s)) ++
      [] :: ((fieldsLines s.indentWidth 1 s.maxLineWidth (t.fields.map Field.constant)).map
        Line.text ++ (t.recordClass s).afterFields.map Line.text)).head?, Resumes line := by
    cases hfirst : t.fields with
    | nil => exact absurd hfirst h.valid.declares
    | cons f fields => simpa using hconstant f
  have hopen : Resumes ((t.recordClass s).declaration s.baseRecord ++ " \x7b") := by
    unfold declaration
    simp only [List.append_assoc]
    exact resumes_append (by decide) _
  have hdeclared := (spaced_cons_of_ne hopen.1).mpr (spaced_blank.mpr ⟨hclass, hregistered⟩)
  have hprologue := spaced_prologueLines s.baseRecord t.package (by simpa using hopen) hdeclared
  have hheader : ∀ line ∈ headerLines.map Line.text, line ≠ [] := by decide
  have hfile := (spaced_append_of_ne hheader).mpr hprologue
  rw [fileLines_eq, Template.fields_recordClass]
  unfold beforeFields
  rw [Template.fields_recordClass]
  simp only [List.map_append, List.map_cons, List.append_assoc, List.cons_append,
    List.nil_append, List.map_map] at hfile ⊢
  exact hfile

theorem trimmed_sourceLines (h : Accepted s t) :
    ∀ l ∈ (t.recordClass s).sourceLines s, Trimmed l.text := by
  have hfields : ∀ l ∈ fieldsLines s.indentWidth 1 s.maxLineWidth (t.fields.map Field.constant),
      Trimmed l.text := by
    refine forall_mem_fieldsLines (p := Trimmed) ?_ (by decide) (fun name hname => ?_) (by decide)
    · exact trimmed_of_ends (ends_append (by decide) _)
    · exact ⟨trimmed_of_ends (h.statement_constants name hname).ends,
        trimmed_of_ends (ends_append (by decide) _)⟩
  have hhead : ∀ l ∈ (t.recordClass s).headLines s, Trimmed l.text := by
    refine forall_mem_headLines (p := Trimmed) (fun l hl => ?_) rfl ?_ ?_ ?_
    · rcases h.statement_prologueLines l hl with hempty | hstatement
      · rw [hempty]
        rfl
      · exact trimmed_of_ends hstatement.ends
    · exact trimmed_of_ends (ends_append (by decide) _)
    · exact fun f _ => trimmed_of_ends (ends_append (by decide) _)
    · rw [Template.fields_recordClass]
      exact hfields
  unfold sourceLines
  simp only [List.forall_mem_append, List.forall_mem_singleton]
  refine ⟨⟨hhead, fun l hl => ?_⟩, rfl⟩
  obtain ⟨m, hm, hl⟩ := List.mem_flatMap.mp hl
  exact trimmed_memberLines (h.members_formed m hm) l hl

theorem tidy_fileLines (h : Accepted s t) :
    Tidy s.indentWidth (((t.recordClass s).fileLines s).map (Line.written s.indentWidth)) := by
  have hlines : ((t.recordClass s).fileLines s).map (Line.written s.indentWidth) =
      ((t.recordClass s).beforeFields s.baseRecord ++
        (fieldsLines s.indentWidth 1 s.maxLineWidth (t.fields.map Field.constant) ++
          (t.recordClass s).members.flatMap memberLines)).map (Line.written s.indentWidth) ++
        [("\x7d" : Text)] := by
    have hlast : Line.written s.indentWidth ⟨0, "\x7d"⟩ = ("\x7d" : Text) := by
      simp [Line.written]
    rw [fileLines_eq, Template.fields_recordClass]
    simp only [afterFields, List.map_append, List.map_cons, List.map_nil, List.append_assoc, hlast]
  refine ⟨?_, ?_, ?_, spaced_written.mpr h.spaced_fileLines⟩
  · rw [hlines]
    exact h.nested_body.append (@Nested.closing s.indentWidth 0 [] rfl)
  · exact ⟨_, hlines, h.nested_body.read?⟩
  · intro i line hline
    rw [fileLines, List.map_append, written_headerLines, List.getElem?_append] at hline
    split at hline
    · next hi => exact trimmed_header ⟨i, hi⟩ line hline
    · left
      obtain ⟨l, hl, rfl⟩ := List.mem_map.mp (List.mem_of_getElem? hline)
      exact trimmed_written (h.trimmed_sourceLines l hl)

end Accepted

namespace CompilationUnit

/-- Every source is well nested and tidily laid out. -/
theorem generate_tidy {s : Settings} {t : Template} {u : CompilationUnit}
    (h : generate s t = .ok u) :
    ∃ lines : List Text, u.source = Text.unlines lines ∧ (∀ line ∈ lines, '\n' ∉ line) ∧
      Tidy s.indentWidth lines := by
  obtain ⟨haccepted, rfl⟩ := generate_eq_ok_iff.mp h
  refine ⟨_, ?_, ?_, haccepted.tidy_fileLines⟩
  · exact (RecordClass.source_eq_fileLines _ s).trans (renderLines_eq_unlines _ _)
  · rw [List.forall_mem_map]
    exact fun l hl => Line.newline_notMem_written (haccepted.newline_notMem_fileLines l hl)

theorem generate_tidy_crowded :
    ∃ u, generate {} .crowded = .ok u ∧ ∃ lines : List Text, u.source = Text.unlines lines ∧
      (∀ line ∈ lines, '\n' ∉ line) ∧ Tidy 4 lines :=
  ⟨_, generate_crowded, generate_tidy generate_crowded⟩

end CompilationUnit
end TupleRecord
