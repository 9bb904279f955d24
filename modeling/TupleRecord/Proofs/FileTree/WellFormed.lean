import Mathlib.Data.List.Infix
import TupleRecord.FileTree

/-!
Trees in which every entry stands in a folder. What is above an entry then is known, and below
what is no folder there is nothing. Each operation on a tree keeps it so: an entry is only ever set
in a folder, and no folder gives way to a file.
-/
namespace TupleRecord.FileTree

@[simp] theorem lookup_nil (t : FileTree) : t.lookup [] = some .folder := rfl

@[simp] theorem lookup_set_self {p : Place} (h : p ≠ []) (t : FileTree) (e : Entry) :
    (t.set p e).lookup p = some e := by
  simp [lookup, set, h]

theorem lookup_set_of_ne {p q : Place} (h : q ≠ p) (t : FileTree) (e : Entry) :
    (t.set p e).lookup q = t.lookup q := by
  have hkept (entries : List (Place × Entry)) :
      (entries.filter (·.1 != p)).lookup q = entries.lookup q := by
    induction entries with
    | nil => rfl
    | cons entry entries ih =>
      obtain ⟨r, f⟩ := entry
      by_cases hr : r = p
      · have hother : (q == r) = false := by simpa [hr] using h
        rw [List.filter_cons_of_neg (by simpa using hr), ih, List.lookup_cons, hother]
      · rw [List.filter_cons_of_pos (by simpa using hr), List.lookup_cons, List.lookup_cons, ih]
  have hp : (q == p) = false := by simpa using h
  simp [lookup, set, List.lookup_cons, hp, hkept]

/-- Holds of a tree in which every entry stands in a folder. -/
def WellFormed (t : FileTree) : Prop :=
  ∀ (p : Place) (name : Text) (e : Entry),
    t.lookup (p ++ [name]) = some e → t.lookup p = some .folder

theorem wellFormed_empty : empty.WellFormed := by
  intro p name e h
  simp [lookup, empty] at h

/-- Holds of a place on the way to another. -/
def IsAbove (q p : Place) : Prop := q <+: p ∧ q ≠ p

theorem isAbove_concat_iff {q p : Place} {name : Text} : IsAbove q (p ++ [name]) ↔ q <+: p := by
  rw [IsAbove, List.prefix_concat_iff]
  constructor
  · rintro ⟨rfl | h, hne⟩
    · exact absurd rfl hne
    · exact h
  · intro h
    refine ⟨.inr h, ?_⟩
    rintro rfl
    have hlength := h.length_le
    rw [List.length_append, List.length_singleton] at hlength
    omega

section
variable {t : FileTree} {here : Place} {name : Text}

/-! A step of `makeRoute` by what stands where it leads. -/

theorem makeRoute_cons_of_folder (h : t.lookup (follow here name) = some .folder)
    (names : List Text) :
    t.makeRoute here (name :: names) = t.makeRoute (follow here name) names := by
  rw [makeRoute]
  simp only [h]

theorem makeRoute_cons_of_file {content : Bytes}
    (h : t.lookup (follow here name) = some (.file content)) (names : List Text) :
    t.makeRoute here (name :: names) = (t, none) := by
  rw [makeRoute]
  simp only [h]

theorem makeRoute_cons_of_none (h : t.lookup (follow here name) = none) (names : List Text) :
    t.makeRoute here (name :: names) =
      (t.set (follow here name) .folder).makeRoute (follow here name) names := by
  rw [makeRoute]
  simp only [h]

end

namespace WellFormed

variable {t : FileTree} {p q : Place} {e : Entry}

theorem folder_above (ht : t.WellFormed) (h : t.lookup p = some e) (hq : IsAbove q p) :
    t.lookup q = some .folder := by
  induction p using List.reverseRecOn generalizing e with
  | nil => exact absurd (List.prefix_nil.mp hq.1) hq.2
  | append_singleton p name ih =>
    have hp := ht p name e h
    by_cases heq : q = p
    · rw [heq, hp]
    · exact ih hp ⟨isAbove_concat_iff.mp hq, heq⟩

theorem folder_of_prefix (ht : t.WellFormed) (h : t.lookup p = some .folder) (hq : q <+: p) :
    t.lookup q = some .folder := by
  by_cases heq : q = p
  · rw [heq, h]
  · exact ht.folder_above h ⟨hq, heq⟩

theorem nothing_below (ht : t.WellFormed) (h : t.lookup q ≠ some .folder) (hq : IsAbove q p) :
    t.lookup p = none := by
  cases hp : t.lookup p with
  | none => rfl
  | some e => exact absurd (ht.folder_above hp hq) h

/-- An entry can be set in a folder, unless it would put a file in the place of a folder. -/
theorem set (ht : t.WellFormed) (hp : t.lookup p = some .folder) {name : Text}
    (hkeep : t.lookup (p ++ [name]) = some .folder → e = .folder) :
    (t.set (p ++ [name]) e).WellFormed := by
  intro q other f hf
  by_cases hset : q ++ [other] = p ++ [name]
  · obtain rfl := (List.append_singleton_inj.mp hset).1
    rw [lookup_set_of_ne (by simp), hp]
  · rw [lookup_set_of_ne hset] at hf
    have hq := ht q other f hf
    by_cases hin : q = p ++ [name]
    · rw [hin] at hq
      rw [hin, lookup_set_self (by simp), hkeep hq]
    · rw [lookup_set_of_ne hin, hq]

/-- A route begins and ends in folders, whatever is made on it. -/
theorem makeRoute (ht : t.WellFormed) {here : Place} (hhere : t.lookup here = some .folder)
    (names : List Text) :
    (t.makeRoute here names).1.WellFormed ∧ ∀ there ∈ (t.makeRoute here names).2,
      (t.makeRoute here names).1.lookup there = some .folder := by
  induction names generalizing t here with
  | nil =>
    refine ⟨ht, ?_⟩
    intro there hthere
    obtain rfl : here = there := Option.some.inj hthere
    exact hhere
  | cons name names ih =>
    cases hlookup : t.lookup (follow here name) with
    | some e =>
      cases e with
      | folder =>
        rw [makeRoute_cons_of_folder hlookup]
        exact ih ht hlookup
      | file content =>
        rw [makeRoute_cons_of_file hlookup]
        exact ⟨ht, fun there h => by cases h⟩
    | none =>
      -- Staying and going up lead to folders, so only a step down can lead to nothing.
      have hdown : follow here name = here ++ [name] := by
        have hup := ht.folder_of_prefix hhere (List.dropLast_prefix here)
        unfold follow at hlookup ⊢
        split_ifs at hlookup ⊢ with hstay hback
        · rw [hhere] at hlookup
          cases hlookup
        · rw [hup] at hlookup
          cases hlookup
        · rfl
      rw [makeRoute_cons_of_none hlookup, hdown]
      exact ih (ht.set hhere fun _ => rfl) (lookup_set_self (by simp) t .folder)

theorem makeFolders (ht : t.WellFormed) (path : Text) :
    (t.makeFolders path).1.WellFormed ∧ ∀ there ∈ (t.makeFolders path).2,
      (t.makeFolders path).1.lookup there = some .folder := by
  unfold FileTree.makeFolders
  dsimp only
  split
  · exact ht.makeRoute (lookup_nil t) _
  · exact ⟨ht, fun there h => by cases h⟩

theorem write (ht : t.WellFormed) (path : Text) (content : Bytes) :
    (t.write path content).1.WellFormed := by
  obtain ⟨hmade, hfolder⟩ := ht.makeFolders (parentAndName path).1
  unfold FileTree.write
  dsimp only
  split
  · next h =>
    rw [h] at hmade
    exact hmade
  · next made folder h =>
    rw [h] at hmade hfolder
    unfold writeAt
    split
    · exact hmade
    · next hfree =>
      rw [not_or] at hfree
      exact hmade.set (hfolder folder rfl) fun hfile => absurd hfile hfree.1

end WellFormed
end TupleRecord.FileTree
