import TupleRecord.CompilationUnit.Basic
import TupleRecord.Proofs.Java.Erasure
import TupleRecord.Proofs.RecordClass.PlainCode

/-!
Documentation and code. Without its comments a source is that of the same template without its
documentation, whatever the comments say, and no source has a unicode escape that a compiler would
translate before it finds the comments.
-/
namespace TupleRecord

open Java

/-- The field without its documentation. -/
def Field.undocumented (f : Field) : Field := { f with doc := none }

def Template.undocumented (t : Template) : Template :=
  { t with fields := t.fields.map Field.undocumented }

def Java.Method.undocumented (m : Method) : Method := { m with doc := none }

namespace Field

variable {s : Settings} {f : Field}

theorem Valid.undocumented (h : f.Valid) : f.undocumented.Valid := ⟨h.named, h.usable, h.type⟩

theorem Storable.undocumented (h : f.Storable s) : f.undocumented.Storable s := ⟨h.flat, h.typed⟩

end Field

namespace Accepted

variable {s : Settings} {t : Template}

/-- No check reads the documentation. -/
theorem undocumented (h : Accepted s t) : Accepted s t.undocumented := by
  have hfields {p : Field → Prop} (hp : ∀ f ∈ t.fields, p f.undocumented) :
      ∀ f ∈ t.undocumented.fields, p f :=
    List.forall_mem_map.mpr hp
  have hdistinct : t.undocumented.fields.Pairwise Field.Distinct :=
    List.pairwise_map.mpr (h.valid.distinct.imp fun hfg => ⟨hfg.bareName, hfg.constant, hfg.setter⟩)
  have hdeclares : t.undocumented.fields ≠ [] := by
    intro hnil
    exact h.valid.declares (List.map_eq_nil_iff.mp hnil)
  refine ⟨⟨h.valid.name, h.valid.package, hdeclares, ?_, hdistinct⟩, h.className, h.base,
    h.extendsOther, h.notImported, ?_, ?_, ?_, ?_⟩
  · exact hfields fun f hf => (h.valid.fields f hf).undocumented
  · exact hfields h.hidesNothing
  · exact hfields h.keepsGetClass
  · exact hfields fun f hf => (h.storable f hf).undocumented
  · intro f hf
    obtain ⟨g, hg, rfl⟩ := List.map_eq_singleton_iff.mp hf
    exact h.ownConstructor g hg

/-- The lines before the members show the names of the fields only. -/
theorem headLines_undocumented (s : Settings) (t : Template) :
    (t.undocumented.recordClass s).headLines s = (t.recordClass s).headLines s := by
  have hfields {β : Type} (view : Field → β) (hview : ∀ f, view f.undocumented = view f) :
      t.undocumented.fields.map view = t.fields.map view := by
    rw [Template.undocumented, List.map_map]
    exact List.map_congr_left fun f _ => hview f
  unfold RecordClass.headLines
  rw [Template.fields_recordClass, Template.fields_recordClass, hfields _ fun _ => rfl,
    hfields _ fun _ => rfl]
  rfl

theorem members_undocumented (s : Settings) (t : Template) :
    (t.undocumented.recordClass s).members =
      (t.recordClass s).members.map Method.undocumented := by
  have haccessors : (t.undocumented.recordClass s).accessors =
      (t.recordClass s).accessors.map Method.undocumented := by
    simp only [RecordClass.accessors, Template.recordClass, Template.undocumented,
      List.flatMap_map, List.map_flatMap, List.map_map]
    rfl
  have hconstructors : (t.undocumented.recordClass s).constructors =
      (t.recordClass s).constructors.map Method.undocumented := by
    simp only [RecordClass.constructors, List.map_cons, List.map_nil, RecordClass.valueConstructor,
      Template.fields_recordClass]
    simp only [Template.recordClass, Template.undocumented, List.map_map]
    rfl
  rw [RecordClass.members, RecordClass.members, haccessors, hconstructors, List.map_append]

end Accepted

namespace RecordClass

theorem codeOf_header : Whole header ∧ codeOf header = [] := by
  have herase (rest : Text) : erase .code (header ++ rest) = ['\n'] ++ erase .code rest := rfl
  obtain ⟨hwhole, hcode⟩ := whole_of_erase herase
  exact ⟨hwhole, hcode.trans (by decide)⟩

/-- The code of a member is that of the lines below its comment. -/
theorem codeOf_memberLines (unit : Nat) {m : Method} (h : ∀ l ∈ m.codeLines 1, Plain l.text) :
    Whole (renderLines unit (memberLines m)) ∧
      codeOf (renderLines unit (memberLines m)) = codeOf (renderLines unit (m.codeLines 1)) := by
  obtain ⟨hwhole, hcode⟩ := codeOf_method unit 1 fun l hl => whole_of_plain (h l hl)
  obtain ⟨hbreak, hblank⟩ := codeOf_blanks ['\n'] (by simp)
  have htext : renderLines unit (memberLines m) = ['\n'] ++ renderLines unit (m.lines 1) := rfl
  rw [htext]
  refine ⟨hbreak.append hwhole, ?_⟩
  rw [hbreak, hblank, hcode, List.nil_append]

theorem codeOf_members (unit : Nat) {methods : List Method}
    (h : ∀ m ∈ methods, ∀ l ∈ m.codeLines 1, Plain l.text) :
    Whole (renderLines unit (methods.flatMap memberLines)) ∧
      codeOf (renderLines unit (methods.flatMap memberLines)) =
        methods.flatMap fun m => codeOf (renderLines unit (m.codeLines 1)) := by
  induction methods with
  | nil => exact codeOf_blanks [] (by simp)
  | cons m methods ih =>
    rw [List.forall_mem_cons] at h
    obtain ⟨hm, hcode⟩ := codeOf_memberLines unit h.1
    obtain ⟨hmethods, hcodes⟩ := ih h.2
    rw [List.flatMap_cons, renderLines_append]
    refine ⟨hm.append hmethods, ?_⟩
    rw [hm, hcode, hcodes, List.flatMap_cons]

end RecordClass

namespace Accepted

variable {s : Settings} {t : Template}

theorem whole_headLines (h : Accepted s t) :
    Whole (renderLines s.indentWidth ((t.recordClass s).headLines s)) := by
  apply whole_renderLines
  intro l hl
  rcases h.headLines_plain l hl with hplain | ⟨before, name, hbefore, -, htext⟩
  · exact whole_of_plain hplain
  · rw [htext]
    exact ((whole_of_plain hbefore.plain).append (whole_quote name)).append (whole_of_plain (by decide))

/-- The code of a source is that of its parts, the comments left out. -/
theorem codeOf_source (h : Accepted s t) :
    codeOf ((t.recordClass s).source s) =
      codeOf (renderLines s.indentWidth ((t.recordClass s).headLines s)) ++
        ((t.recordClass s).members.flatMap fun m =>
          codeOf (renderLines s.indentWidth (m.codeLines 1))) ++ "\x7d" := by
  obtain ⟨hheader, hnone⟩ := RecordClass.codeOf_header
  obtain ⟨hmembers, hcodes⟩ := RecordClass.codeOf_members s.indentWidth h.members_plain
  have hclose : codeOf (renderLines s.indentWidth [⟨0, "\x7d"⟩]) = ("\x7d" : Text) := by
    have htext : renderLines s.indentWidth [⟨0, "\x7d"⟩] = ("\x7d\n" : Text) := by
      simp [Writer.indented]
    rw [htext]
    decide
  rw [RecordClass.source_eq, RecordClass.sourceLines, renderLines_append, renderLines_append,
    List.append_assoc, hheader, h.whole_headLines, hmembers, hcodes, hnone, hclose]
  simp

theorem codeOf_source_undocumented (h : Accepted s t) :
    codeOf ((t.undocumented.recordClass s).source s) = codeOf ((t.recordClass s).source s) := by
  rw [h.codeOf_source, h.undocumented.codeOf_source, headLines_undocumented, members_undocumented,
    List.flatMap_map]
  rfl

/-- No backslash of a source begins a unicode escape. -/
theorem apart_source (h : Accepted s t) :
    Text.Apart '\\' 'u' ((t.recordClass s).source s) := by
  have hplain {text : Text} (htext : Plain text) : Text.Apart '\\' 'u' text :=
    Text.apart_of_notMem (htext.notMem (by decide))
  have hhead : ∀ l ∈ (t.recordClass s).headLines s, Text.Apart '\\' 'u' l.text := by
    intro l hl
    exact Text.apart_of_notMem (h.notMem_headLines (by decide) (by decide) l hl)
  have hmember : ∀ m ∈ (t.recordClass s).members, ∀ l ∈ RecordClass.memberLines m,
      Text.Apart '\\' 'u' l.text := by
    intro m hm
    rw [RecordClass.memberLines, Method.lines, List.forall_mem_cons, List.forall_mem_append]
    refine ⟨Text.apart_nil, ?_, fun l hl => hplain (h.members_plain m hm l hl)⟩
    cases m.doc with
    | none => simp
    | some doc => exact Comment.apart_lines 1 doc
  rw [RecordClass.source_eq, Text.apart_append_of_notMem (by decide),
    apart_renderLines (by decide) (by decide) (by decide)]
  simp only [RecordClass.sourceLines, List.forall_mem_append, List.forall_mem_singleton]
  refine ⟨⟨hhead, fun l hl => ?_⟩, by simp⟩
  obtain ⟨m, hm, hml⟩ := List.mem_flatMap.mp hl
  exact hmember m hm l hml

end Accepted

namespace CompilationUnit

/-- Documentation never changes code: without it the template still has a source, which differs
in comments and blanks only, and no source has a unicode escape. -/
theorem generate_undocumented {s : Settings} {t : Template} {u : CompilationUnit}
    (h : generate s t = .ok u) :
    ∃ u', generate s t.undocumented = .ok u' ∧ codeOf u.source = codeOf u'.source ∧
      ¬ ("\\u" : Text) <:+: u.source := by
  obtain ⟨haccepted, rfl⟩ := generate_eq_ok_iff.mp h
  refine ⟨(t.undocumented.recordClass s).unit s,
    generate_eq_ok_iff.mpr ⟨haccepted.undocumented, rfl⟩, ?_, ?_⟩
  · exact haccepted.codeOf_source_undocumented.symm
  · exact haccepted.apart_source.not_isInfix

theorem generate_undocumented_crowded :
    ∃ u u', generate {} .crowded = .ok u ∧ generate {} Template.crowded.undocumented = .ok u' ∧
      codeOf u.source = codeOf u'.source ∧ ¬ ("\\u" : Text) <:+: u.source := by
  obtain ⟨u', hu', hcode, hescape⟩ := generate_undocumented generate_crowded
  exact ⟨_, u', generate_crowded, hu', hcode, hescape⟩

end CompilationUnit
end TupleRecord
