import TupleRecord.Proofs.Java.Layout
import TupleRecord.Proofs.Text.Pieces

/-!
Reading source text back. A reader sees the lines of a source without their indentation, and the
parameters of a signature between commas; neither needs to know how the source was laid out.
-/
namespace TupleRecord.Java

open Text

/-- A line without its indentation. -/
def unindent (line : Text) : Text := line.dropWhile (· == ' ')

/-- The lines of a source without their indentation. -/
def readLines (source : Text) : List Text := (Text.split '\n' source).map unindent

/-- Reads the declaration of a parameter behind any blanks. -/
def Param.read (piece : Text) : Param :=
  let text := unindent piece
  ⟨text.takeWhile (· != ' '), (text.dropWhile (· != ' ')).drop 1⟩

/-- Reads parameters that are separated by commas. -/
def readParams (text : Text) : List Param := (Text.split ',' text).map Param.read

theorem unindent_of_head {text : Text} (h : text.head? ≠ some ' ') : unindent text = text := by
  cases text with
  | nil => rfl
  | cons c text =>
    have hc : (c == ' ') = false := by simpa using h
    rw [unindent, List.dropWhile_cons_of_neg (by simp [hc])]

theorem unindent_replicate (width : Nat) (text : Text) :
    unindent (List.replicate width ' ' ++ text) = unindent text := by
  induction width with
  | zero => rfl
  | succ width ih => rw [List.replicate_succ, List.cons_append, unindent,
      List.dropWhile_cons_of_pos (by simp), ← ih, unindent]

/-- A line as it stands in a source, without its line feed. -/
def Line.written (unit : Nat) (l : Line) : Text :=
  if l.text = [] then [] else List.replicate (unit * l.depth) ' ' ++ l.text

theorem renderLines_eq_unlines (unit : Nat) (lines : List Line) :
    renderLines unit lines = unlines (lines.map (Line.written unit)) := by
  induction lines with
  | nil => rfl
  | cons l lines ih =>
    have hline : Writer.indented (unit * l.depth) l.text = l.written unit ++ ['\n'] := by
      unfold Writer.indented Line.written
      split <;> rfl
    rw [renderLines_cons, hline, ih, List.map_cons, unlines_cons, List.append_assoc,
      List.singleton_append]

theorem Line.unindent_written (unit : Nat) (l : Line) : unindent (l.written unit) = unindent l.text := by
  unfold written
  split
  · next h => rw [h]
  · exact unindent_replicate _ _

theorem Line.newline_notMem_written {unit : Nat} {l : Line} (h : '\n' ∉ l.text) :
    '\n' ∉ l.written unit := by
  unfold written
  split
  · exact List.not_mem_nil
  · simp [h]

theorem split_indented {sep : Char} {text : Text} (hsep : sep ≠ ' ') (h : sep ∉ text) (width : Nat) :
    Text.split sep (List.replicate width ' ' ++ text) = [List.replicate width ' ' ++ text] := by
  apply split_of_notMem
  intro hmem
  rcases List.mem_append.mp hmem with hspace | htext
  · exact hsep (List.eq_of_mem_replicate hspace)
  · exact h htext

/-- The lines of a source are read as they were before they were indented. -/
theorem readLines_renderLines (unit : Nat) {lines : List Line} (h : ∀ l ∈ lines, '\n' ∉ l.text)
    (rest : Text) :
    readLines (renderLines unit lines ++ rest) =
      lines.map (fun l => unindent l.text) ++ readLines rest := by
  have hwritten : ∀ line ∈ lines.map (Line.written unit), '\n' ∉ line := by
    rw [List.forall_mem_map]
    exact fun l hl => Line.newline_notMem_written (h l hl)
  rw [renderLines_eq_unlines, readLines, split_unlines hwritten, List.map_append, List.map_map,
    readLines]
  simp only [Function.comp_def, Line.unindent_written]

theorem Param.read_text {p : Param} (hne : p.type ≠ []) (hspace : ' ' ∉ p.type) :
    Param.read p.text = p := by
  have htext : p.text = p.type ++ ' ' :: p.name := by simp [Param.text]
  obtain ⟨htake, hdrop⟩ := takeWhile_append_cons hspace p.name
  have hhead : p.text.head? ≠ some ' ' := by
    rw [htext, List.head?_append_of_ne_nil _ hne]
    exact fun h => hspace (List.mem_of_mem_head? h)
  rw [Param.read, unindent_of_head hhead, htext, htake, hdrop]
  rfl

/-- The parameters of a signature are read as they were declared. -/
theorem readParams_intercalate {params : List Param} (hne : params ≠ [])
    (h : ∀ p ∈ params, p.type ≠ [] ∧ ' ' ∉ p.type ∧ ',' ∉ p.text) :
    readParams (List.intercalate ", " (params.map Param.text)) = params := by
  -- All parameters but the first stand behind a blank.
  have hblank (blanks : Nat) : readParams (List.replicate blanks ' ' ++
      List.intercalate ", " (params.map Param.text)) = params := by
    induction params generalizing blanks with
    | nil => exact absurd rfl hne
    | cons p params ih =>
      rw [List.forall_mem_cons] at h
      obtain ⟨⟨htype, hspace, hcomma⟩, hparams⟩ := h
      have hread : Param.read (List.replicate blanks ' ' ++ p.text) = p := by
        rw [Param.read, unindent_replicate]
        exact Param.read_text htype hspace
      have hone := split_indented (by decide) hcomma blanks
      cases params with
      | nil =>
        rw [List.map_singleton, List.intercalate_singleton, readParams, hone, List.map_singleton,
          hread]
      | cons q params =>
        have hrest := ih (by simp) hparams 1
        have htext : List.replicate blanks ' ' ++
            List.intercalate ", " ((p :: q :: params).map Param.text) =
              (List.replicate blanks ' ' ++ p.text) ++ ',' :: (List.replicate 1 ' ' ++
                List.intercalate ", " ((q :: params).map Param.text)) := by
          rw [List.map_cons, List.map_cons, List.intercalate_cons_cons]
          simp
        rw [htext, readParams, split_append_cons, hone, List.map_append, List.map_singleton, hread,
          ← readParams, hrest, List.singleton_append]
  exact hblank 0

end TupleRecord.Java
