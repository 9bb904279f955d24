import Mathlib.Data.List.Infix
import TupleRecord.Text

/-!
Replacing one text by another throughout a third, from the left. The replacement can be undone
if the new text was not there before and none of its own ends is one of its beginnings.
-/
namespace TupleRecord.Text

/-- The second text is the first with every `old` replaced by `new`. -/
inductive Replaced (old new : Text) : Text → Text → Prop where
  | nil : Replaced old new [] []
  | keep {c : Char} {a b : Text} (other : ¬ old <+: c :: a) (rest : Replaced old new a b) :
      Replaced old new (c :: a) (c :: b)
  | swap {a b : Text} (rest : Replaced old new a b) : Replaced old new (old ++ a) (new ++ b)

/-- No end of `part` but the empty one is a beginning of `whole`: what starts as `part` cannot go on
as `whole`. -/
def Clear (part whole : Text) : Prop := ∀ ending ∈ part.tails, ending <+: whole → ending = []

instance (part whole : Text) : Decidable (Clear part whole) :=
  inferInstanceAs (Decidable (∀ ending ∈ part.tails, ending <+: whole → ending = []))

theorem Clear.tail {c : Char} {part whole : Text} (h : Clear (c :: part) whole) :
    Clear part whole := by
  intro ending hending
  exact h ending (by simp [hending])

namespace Replaced

variable {old new a b : Text}

/-- The character that a function by patterns keeps. -/
theorem cons_of_ne {x c : Char} {start : Text}
    (hc : ∀ rest, c = x → a = start ++ rest → False) (h : Replaced (x :: start) new a b) :
    Replaced (x :: start) new (c :: a) (c :: b) := by
  refine .keep ?_ h
  rintro ⟨rest, hrest⟩
  obtain ⟨rfl, rfl⟩ := List.cons.inj hrest
  exact hc rest rfl rfl

theorem eq_nil_iff (hold : old ≠ []) (hnew : new ≠ []) (h : Replaced old new a b) :
    b = [] ↔ a = [] := by
  cases h with
  | nil => exact Iff.rfl
  | keep => simp
  | swap => simp [hold, hnew]

theorem mem {c : Char} (h : Replaced old new a b) (hc : c ∈ b) : c ∈ a ∨ c ∈ new := by
  induction h with
  | nil => exact .inl hc
  | keep _ _ ih =>
    rcases List.mem_cons.mp hc with rfl | hc
    · exact .inl List.mem_cons_self
    · exact (ih hc).imp_left (List.mem_cons_of_mem _)
  | swap _ ih =>
    rcases List.mem_append.mp hc with hc | hc
    · exact .inr hc
    · exact (ih hc).imp_left (List.mem_append_right _)

theorem unique (hold : old ≠ []) {b' : Text} (h : Replaced old new a b)
    (h' : Replaced old new a b') : b = b' := by
  induction h generalizing b' with
  | nil =>
    generalize hnil : ([] : Text) = text at h'
    cases h' with
    | nil => rfl
    | keep => cases hnil
    | swap => exact absurd (List.append_eq_nil_iff.mp hnil.symm).1 hold
  | @keep c a b other _ ih =>
    generalize htext : c :: a = text at h'
    cases h' with
    | nil => cases htext
    | keep _ rest' =>
      obtain ⟨rfl, rfl⟩ := List.cons.inj htext
      rw [ih rest']
    | @swap a' => exact absurd ⟨a', htext.symm⟩ other
  | @swap a b _ ih =>
    generalize htext : old ++ a = text at h'
    cases h' with
    | nil => exact absurd (List.append_eq_nil_iff.mp htext).1 hold
    | keep other' => exact absurd ⟨a, htext⟩ other'
    | swap rest' =>
      obtain rfl := List.append_cancel_left htext
      rw [ih rest']

/-- A text without the old one stays as it is. -/
theorem eq_self (h : Replaced old new a b) (hnone : ¬ old <:+: a) : b = a := by
  induction h with
  | nil => rfl
  | keep _ _ ih => rw [ih fun hwithin => hnone (List.infix_cons hwithin)]
  | swap => exact absurd (List.prefix_append old _).isInfix hnone

/-- A character that is not in the old text separates what is replaced on its two sides. -/
theorem append_cons {c : Char} (hold : old ≠ []) (hc : c ∉ old) {a' b' : Text}
    (h : Replaced old new a b) (h' : Replaced old new a' b') :
    Replaced old new (a ++ c :: a') (b ++ c :: b') := by
  -- An occurrence of the old text does not run over the separator.
  have hbefore (start : Text) (hstart : old <+: start ++ c :: a') : old <+: start := by
    obtain ⟨rest, hrest⟩ := hstart
    rcases List.append_eq_append_iff.mp hrest with ⟨cut, hcut, -⟩ | ⟨cut, hcut, htail⟩
    · exact ⟨cut, hcut.symm⟩
    · cases cut with
      | nil => exact ⟨[], by simpa using hcut⟩
      | cons d cut =>
        rw [hcut, (List.cons.inj htail).1] at hc
        simp at hc
  induction h with
  | nil => exact .keep (fun h => hold (List.prefix_nil.mp (hbefore [] h))) h'
  | @keep d a b other _ ih => exact .keep (fun h => other (hbefore (d :: a) h)) ih
  | swap _ ih =>
    rw [List.append_assoc, List.append_assoc]
    exact .swap ih

theorem getLast?_eq (hold : old ≠ []) (hnew : new ≠ []) (h : Replaced old new a b) :
    b.getLast? = a.getLast? ∨ b.getLast? = new.getLast? := by
  induction h with
  | nil => exact .inl rfl
  | @keep c a b _ rest ih =>
    by_cases hb : b = []
    · rw [hb, (rest.eq_nil_iff hold hnew).mp hb]
      exact .inl rfl
    · have ha := mt (rest.eq_nil_iff hold hnew).mpr hb
      rwa [← List.singleton_append, ← List.singleton_append (l := a),
        List.getLast?_append_of_ne_nil _ hb, List.getLast?_append_of_ne_nil _ ha]
  | @swap a b rest ih =>
    by_cases hb : b = []
    · rw [hb, List.append_nil]
      exact .inr rfl
    · have ha := mt (rest.eq_nil_iff hold hnew).mpr hb
      rwa [List.getLast?_append_of_ne_nil _ hb, List.getLast?_append_of_ne_nil _ ha]

/-- A start of the result that is no longer than the new text and clear of it was there before. -/
theorem isPrefix {start : Text} (h : Replaced old new a b) (hclear : Clear start new)
    (hlength : start.length ≤ new.length) (hstart : start <+: b) : start <+: a := by
  induction h generalizing start with
  | nil => exact hstart
  | keep _ _ ih =>
    cases start with
    | nil => exact List.nil_prefix
    | cons d start =>
      rw [List.cons_prefix_cons] at hstart ⊢
      exact ⟨hstart.1, ih hclear.tail (by simp at hlength; omega) hstart.2⟩
  | swap =>
    -- The new text begins here, so all of `start` is one of its beginnings.
    have hnew := List.prefix_of_prefix_length_le hstart (List.prefix_append new _) hlength
    rw [hclear start (by simp) hnew]
    exact List.nil_prefix

theorem isInfix {x : Char} {part : Text} (h : Replaced old new a b) (hx : x ∉ new)
    (hclear : Clear part new) (hlength : part.length ≤ new.length) (hpart : x :: part <:+: b) :
    x :: part <:+: a := by
  have hbehind {u v : Text} (hu : x ∉ u) (huv : x :: part <:+: u ++ v) : x :: part <:+: v := by
    induction u with
    | nil => exact huv
    | cons d u ih =>
      simp only [List.mem_cons, not_or] at hu
      rcases List.infix_cons_iff.mp huv with hd | hrest
      · exact absurd (List.cons_prefix_cons.mp hd).1 hu.1
      · exact ih hu.2 hrest
  induction h with
  | nil => exact hpart
  | keep _ rest ih =>
    rcases List.infix_cons_iff.mp hpart with hfirst | hpart
    · rw [List.cons_prefix_cons] at hfirst
      exact (List.cons_prefix_cons.mpr
        ⟨hfirst.1, rest.isPrefix hclear hlength hfirst.2⟩).isInfix
    · exact List.infix_cons (ih hpart)
  | swap _ ih => exact (ih (hbehind hx hpart)).trans (List.suffix_append old _).isInfix

/-- Replacing in the other direction leads back. -/
theorem undo {x : Char} {part : Text} (h : Replaced old (x :: part) a b)
    (hclear : Clear part (x :: part)) (hnone : ¬ x :: part <:+: a) :
    Replaced (x :: part) old b a := by
  induction h with
  | nil => exact .nil
  | keep _ rest ih =>
    rw [List.infix_cons_iff, not_or] at hnone
    refine .keep (fun hfirst => hnone.1 ?_) (ih hnone.2)
    rw [List.cons_prefix_cons] at hfirst ⊢
    exact ⟨hfirst.1, rest.isPrefix hclear (by simp) hfirst.2⟩
  | swap _ ih => exact .swap (ih fun h => hnone (h.trans (List.suffix_append old _).isInfix))

end Replaced
end TupleRecord.Text
