import TupleRecord.Proofs.Java.Layout
import TupleRecord.RecordClass.Source

/-!
The source of a class as lines. `source_eq` takes the writer out of `RecordClass.source`: behind
the header come the lines before the members, which depend on the names of the fields alone, and
then the lines of each member.
-/
namespace TupleRecord.RecordClass

open Java

/-- The lines of the header. -/
def headerLines : List Line :=
  [⟨0, "/**"⟩, ⟨0, " * Autogenerated by Scale Unlimited's DatumCompiler"⟩, ⟨0, " * "⟩,
    ⟨0, " * DO NOT EDIT DIRECTLY"⟩, ⟨0, " * SUB-CLASS TO CUSTOMIZE"⟩, ⟨0, " */"⟩]

theorem header_eq (unit : Nat) : header = renderLines unit headerLines := rfl

/-- The lines between the header and the declaration of the class. -/
def prologueLines (baseRecord package : Text) : List Line :=
  [⟨0, []⟩] ++ (if package = [] then [] else [⟨0, "package " ++ package ++ ";"⟩, ⟨0, []⟩]) ++
    (imports baseRecord).map (fun name => ⟨0, "import " ++ name ++ ";"⟩) ++ [⟨0, []⟩]

/-- The declaration of the list of all constants, if it is on one line. -/
def fieldsSingle (constants : List Text) : Text :=
  fieldsHead ++ " \x7b" ++ List.intercalate ", " constants ++ "\x7d);"

/-- The lines that declare the list of all constants. -/
def fieldsLines (unit depth maxLineWidth : Nat) (constants : List Text) : List Line :=
  if unit * depth + (fieldsSingle constants).length ≤ maxLineWidth then
    [⟨depth, fieldsSingle constants⟩]
  else
    ⟨depth, fieldsHead ++ " \x7b"⟩ ::
      ((separated constants).map (Line.mk (depth + 1)) ++ [⟨depth, "\x7d);"⟩])

/-- The lines before the members. -/
def headLines (c : RecordClass) (s : Settings) : List Line :=
  prologueLines s.baseRecord c.package ++
    [⟨0, c.declaration s.baseRecord ++ " \x7b"⟩, ⟨1, []⟩] ++
    c.fields.map (fun f => ⟨1, constantLine c.name f⟩) ++ [⟨1, []⟩] ++
    fieldsLines s.indentWidth 1 s.maxLineWidth (c.fields.map Field.constant)

/-- The empty line before a member and the lines of the member. -/
def memberLines (m : Method) : List Line := ⟨1, []⟩ :: m.lines 1

def members (c : RecordClass) : List Method := c.constructors ++ c.accessors

def sourceLines (c : RecordClass) (s : Settings) : List Line :=
  c.headLines s ++ c.members.flatMap memberLines ++ [⟨0, "\x7d"⟩]

theorem writePrologue_new (unit : Nat) (baseRecord package : Text) :
    writePrologue baseRecord package (.new unit) =
      ((Writer.new unit).raw header).add (prologueLines baseRecord package) := by
  have hlevel : ((Writer.new unit).raw header).level = 0 := rfl
  unfold writePrologue prologueLines
  split
  · simp [Writer.blank_eq_add, Writer.lines_eq_add, hlevel, Function.comp_def]
  · simp only [Writer.blank_eq_add, Writer.line_eq_add, Writer.lines_eq_add, Writer.add_add,
      Writer.level_add, hlevel, List.map_map, List.append_assoc, Function.comp_def]
    rfl

theorem writeFields_eq_add (maxLineWidth : Nat) (constants : List Text) (w : Writer) :
    writeFields maxLineWidth constants w =
      w.add (fieldsLines w.unit w.level maxLineWidth constants) := by
  have hlevel (v : Writer) : v.indent.level = v.level + 1 := rfl
  by_cases hfits : w.unit * w.level + (fieldsSingle constants).length ≤ maxLineWidth
  · rw [fieldsLines, if_pos hfits]
    exact if_pos hfits
  · rw [fieldsLines, if_neg hfits]
    refine (if_neg hfits).trans ?_
    rw [Writer.openBlock_eq_add, Writer.lines_eq_add, hlevel, Writer.level_add,
      Writer.closeWith_indent_add, Writer.add_add, Writer.level_add]
    rfl

theorem foldl_writeMember_eq_add (methods : List Method) (w : Writer) (h : w.level = 1) :
    methods.foldl writeMember w = w.add (methods.flatMap memberLines) := by
  induction methods generalizing w with
  | nil => rfl
  | cons m methods ih =>
    have hmember : writeMember w m = w.add (memberLines m) := by
      rw [writeMember, Writer.blank_eq_add, Writer.method_eq_add, Writer.add_add, Writer.level_add,
        h]
      rfl
    rw [List.foldl_cons, hmember, ih (w.add (memberLines m)) h, Writer.add_add, List.flatMap_cons]

theorem source_eq (c : RecordClass) (s : Settings) :
    c.source s = header ++ renderLines s.indentWidth (c.sourceLines s) := by
  have hlevel (v : Writer) : v.indent.level = v.level + 1 := rfl
  have hunit (v : Writer) : v.indent.unit = v.unit := rfl
  have hstart : ((Writer.new s.indentWidth).raw header).level = 0 := rfl
  have hwidth : ((Writer.new s.indentWidth).raw header).unit = s.indentWidth := rfl
  simp only [source, writePrologue_new, Writer.openBlock_eq_add, writeConstants,
    Writer.blank_eq_add, Writer.lines_eq_add, writeFields_eq_add, Writer.add_add, Writer.level_add,
    Writer.unit_add, hlevel, hunit, hstart]
  rw [foldl_writeMember_eq_add _ _ (by rfl), Writer.add_add, Writer.closeBlock_indent_add,
    Writer.add_add, Writer.text_add, Writer.text_raw]
  simp only [sourceLines, headLines, members, Writer.text_new, List.nil_append, List.append_assoc,
    List.cons_append, List.map_map, Function.comp_def, hwidth, Nat.zero_add]
  rfl

/-- All lines of a source. -/
def fileLines (c : RecordClass) (s : Settings) : List Line := headerLines ++ c.sourceLines s

theorem source_eq_fileLines (c : RecordClass) (s : Settings) :
    c.source s = renderLines s.indentWidth (c.fileLines s) := by
  rw [source_eq, header_eq s.indentWidth, ← renderLines_append]
  rfl

/-! What holds of the texts that the lines before the members are made of holds of each line. -/

section
variable {p : Text → Prop}

theorem mem_separated {names : List Text} {line : Text} (h : line ∈ separated names) :
    ∃ name ∈ names, line = name ∨ line = name ++ "," := by
  fun_induction separated names with
  | case1 => cases h
  | case2 name => exact ⟨name, by simp, .inl (List.mem_singleton.mp h)⟩
  | case3 name names hne ih =>
    rcases List.mem_cons.mp h with hline | hline
    · exact ⟨name, by simp, .inr hline⟩
    · obtain ⟨other, hother, htext⟩ := ih hline
      exact ⟨other, List.mem_cons_of_mem _ hother, htext⟩

theorem forall_mem_prologueLines {baseRecord package : Text} (hempty : p [])
    (hpackage : p ("package " ++ package ++ ";"))
    (himports : ∀ name ∈ imports baseRecord, p ("import " ++ name ++ ";")) :
    ∀ l ∈ prologueLines baseRecord package, p l.text := by
  unfold prologueLines
  simp only [List.forall_mem_append, List.forall_mem_map, List.forall_mem_singleton]
  refine ⟨⟨⟨hempty, ?_⟩, himports⟩, hempty⟩
  by_cases hnone : package = []
  · rw [if_pos hnone]
    simp
  · rw [if_neg hnone]
    simp only [List.forall_mem_cons]
    exact ⟨hpackage, hempty, by simp⟩

theorem forall_mem_fieldsLines {unit depth maxLineWidth : Nat} {constants : List Text}
    (hsingle : p (fieldsSingle constants)) (hhead : p (fieldsHead ++ " \x7b"))
    (hnames : ∀ name ∈ constants, p name ∧ p (name ++ ",")) (hclose : p "\x7d);") :
    ∀ l ∈ fieldsLines unit depth maxLineWidth constants, p l.text := by
  by_cases hfits : unit * depth + (fieldsSingle constants).length ≤ maxLineWidth
  · rw [fieldsLines, if_pos hfits, List.forall_mem_singleton]
    exact hsingle
  · rw [fieldsLines, if_neg hfits]
    simp only [List.forall_mem_cons, List.forall_mem_append, List.forall_mem_map]
    refine ⟨hhead, fun line hline => ?_, hclose, by simp⟩
    obtain ⟨name, hname, rfl | rfl⟩ := mem_separated hline
    · exact (hnames _ hname).1
    · exact (hnames _ hname).2

theorem forall_mem_headLines {c : RecordClass} {s : Settings}
    (hprologue : ∀ l ∈ prologueLines s.baseRecord c.package, p l.text) (hempty : p [])
    (hdeclaration : p (c.declaration s.baseRecord ++ " \x7b"))
    (hconstants : ∀ f ∈ c.fields, p (constantLine c.name f))
    (hfields : ∀ l ∈ fieldsLines s.indentWidth 1 s.maxLineWidth (c.fields.map Field.constant),
      p l.text) :
    ∀ l ∈ c.headLines s, p l.text := by
  unfold headLines
  simp only [List.forall_mem_append, List.forall_mem_map, List.forall_mem_singleton,
    List.forall_mem_cons]
  exact ⟨⟨⟨⟨hprologue, hdeclaration, hempty⟩, hconstants⟩, hempty⟩, hfields⟩

end

/-- The accessors of a column are members. -/
theorem accessors_mem_members {c : RecordClass} {column : Column} (h : column ∈ c.columns) :
    column.setter ∈ c.members ∧ column.getter ∈ c.members := by
  have haccessor {m : Method} (hm : m ∈ [column.setter, column.getter]) : m ∈ c.members :=
    List.mem_append_right _ (List.mem_flatMap.mpr ⟨column, h, hm⟩)
  exact ⟨haccessor (by simp), haccessor (by simp)⟩

/-- What holds of the constructors and of the accessors of each column holds of every member. -/
theorem forall_mem_members {c : RecordClass} {p : Method → Prop}
    (hconstructors : ∀ m ∈ c.constructors, p m)
    (haccessors : ∀ column ∈ c.columns, p column.setter ∧ p column.getter) :
    ∀ m ∈ c.members, p m := by
  rw [members, List.forall_mem_append]
  refine ⟨hconstructors, fun m hm => ?_⟩
  obtain ⟨column, hcolumn, hm⟩ := List.mem_flatMap.mp hm
  rcases List.mem_cons.mp hm with rfl | hm
  · exact (haccessors column hcolumn).1
  · obtain rfl := List.mem_singleton.mp hm
    exact (haccessors column hcolumn).2

/-- Lines that follow each other are together in the source. -/
theorem renderLines_isInfix_of_sourceLines {c : RecordClass} {s : Settings}
    {before lines after : List Line} (h : c.sourceLines s = before ++ lines ++ after) :
    renderLines s.indentWidth lines <:+: c.source s := by
  rw [source_eq, h, renderLines_append, renderLines_append, ← List.append_assoc,
    ← List.append_assoc]
  exact ⟨_, _, rfl⟩

/-- Every member is in the source on lines of its own. -/
theorem renderLines_isInfix_source (s : Settings) {c : RecordClass} {m : Method}
    (h : m ∈ c.members) : renderLines s.indentWidth (m.lines 1) <:+: c.source s := by
  obtain ⟨before, after, hmembers⟩ := List.append_of_mem h
  have hlines : c.sourceLines s = (c.headLines s ++ before.flatMap memberLines ++ [⟨1, []⟩]) ++
      m.lines 1 ++ (after.flatMap memberLines ++ [⟨0, "\x7d"⟩]) := by
    simp [sourceLines, hmembers, memberLines]
  exact renderLines_isInfix_of_sourceLines hlines

/-- Holds of a text that has everything that a class declares, each on lines of its own. -/
structure StandsIn (c : RecordClass) (s : Settings) (text : Text) : Prop where
  constants : ∀ f ∈ c.fields,
    renderLines s.indentWidth [⟨1, constantLine c.name f⟩] <:+: text
  fieldsConstant : renderLines s.indentWidth
    (fieldsLines s.indentWidth 1 s.maxLineWidth (c.fields.map Field.constant)) <:+: text
  members : ∀ m ∈ c.members, renderLines s.indentWidth (m.lines 1) <:+: text

theorem standsIn_source (c : RecordClass) (s : Settings) : c.StandsIn s (c.source s) where
  constants := by
    intro f hf
    obtain ⟨before, after, hfields⟩ := List.append_of_mem hf
    have hlines : c.sourceLines s = (prologueLines s.baseRecord c.package ++
        [⟨0, c.declaration s.baseRecord ++ " \x7b"⟩, ⟨1, []⟩] ++
        before.map fun g => ⟨1, constantLine c.name g⟩) ++ [⟨1, constantLine c.name f⟩] ++
        (after.map (fun g => ⟨1, constantLine c.name g⟩) ++ [⟨1, []⟩] ++
        fieldsLines s.indentWidth 1 s.maxLineWidth (c.fields.map Field.constant) ++
        c.members.flatMap memberLines ++ [⟨0, "\x7d"⟩]) := by
      simp [sourceLines, headLines, hfields]
    exact renderLines_isInfix_of_sourceLines hlines
  fieldsConstant := by
    have hlines : c.sourceLines s = (prologueLines s.baseRecord c.package ++
        [⟨0, c.declaration s.baseRecord ++ " \x7b"⟩, ⟨1, []⟩] ++
        c.fields.map (fun f => ⟨1, constantLine c.name f⟩) ++ [⟨1, []⟩]) ++
        fieldsLines s.indentWidth 1 s.maxLineWidth (c.fields.map Field.constant) ++
        (c.members.flatMap memberLines ++ [⟨0, "\x7d"⟩]) := by
      rw [sourceLines, headLines, List.append_assoc _ (c.members.flatMap memberLines)]
    exact renderLines_isInfix_of_sourceLines hlines
  members := fun _ hm => renderLines_isInfix_source s hm

end TupleRecord.RecordClass
