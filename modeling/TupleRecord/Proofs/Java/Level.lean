import Mathlib.Data.Finset.Lattice.Fold
import TupleRecord.Proofs.Java.Layout

/-!
The level of a writer after any steps. A surplus step out of the first level is lost, so the level
is not how much more often the steps went in than out, but that number less the lowest value it had
on the way. Code, methods and comments come back to the level where they began.
-/
namespace TupleRecord.Java.Writer

/-- Holds of the steps that go one level in. -/
def Step.opens : Step → Bool
  | openBlock _ | indent => true
  | line _ | blank | raw _ | closeBlock | closeWith _ | dedent | code _ | method _ | doc _ => false

/-- Holds of the steps that go one level out. -/
def Step.closes : Step → Bool
  | closeBlock | closeWith _ | dedent => true
  | line _ | blank | raw _ | openBlock _ | indent | code _ | method _ | doc _ => false

/-- How much more often steps go in than out. -/
def balance (steps : List Step) : Int := steps.countP Step.opens - steps.countP Step.closes

/-- The lowest balance of the first steps, over every number of them. -/
def lowest (steps : List Step) : Int :=
  (Finset.range (steps.length + 1)).inf' Finset.nonempty_range_add_one fun k =>
    balance (steps.take k)

theorem balance_concat (steps : List Step) (s : Step) :
    balance (steps ++ [s]) = balance steps + balance [s] := by
  simp only [balance, List.countP_append]
  omega

theorem le_lowest_iff {n : Int} {steps : List Step} :
    n ≤ lowest steps ↔ ∀ k ≤ steps.length, n ≤ balance (steps.take k) := by
  simp only [lowest, Finset.le_inf'_iff, Finset.mem_range, Nat.lt_succ_iff]

theorem lowest_concat (steps : List Step) (s : Step) :
    lowest (steps ++ [s]) = min (lowest steps) (balance (steps ++ [s])) := by
  refine eq_of_forall_le_iff fun n => ?_
  have hlength : (steps ++ [s]).length = steps.length + 1 := List.length_append
  have htake {k : Nat} (hk : k ≤ steps.length) : (steps ++ [s]).take k = steps.take k :=
    List.take_append_of_le_length hk
  rw [le_min_iff, le_lowest_iff, le_lowest_iff, hlength]
  constructor
  · intro h
    refine ⟨fun k hk => ?_, ?_⟩
    · rw [← htake hk]
      exact h k (by omega)
    · have hall := h (steps.length + 1) le_rfl
      rwa [← hlength, List.take_length] at hall
  · rintro ⟨hbefore, hall⟩ k hk
    rcases Nat.le_succ_iff.mp hk with hk | rfl
    · rw [htake hk]
      exact hbefore k hk
    · rwa [Nat.succ_eq_add_one, ← hlength, List.take_length]

/-! ### What one step does -/

theorem text_isPrefix_line (w : Writer) (text : Text) : w.text <+: (w.line text).text := by
  rw [text_line]
  exact List.prefix_append _ _

theorem text_isPrefix_add (w : Writer) (lines : List Line) : w.text <+: (w.add lines).text := by
  rw [text_add]
  exact List.prefix_append _ _

/-- A step keeps the unit, goes one level out or in at most, and only adds to the text. -/
theorem step_moves (w : Writer) (s : Step) :
    (w.step s).unit = w.unit ∧ (w.step s).level = w.level - s.closes.toNat + s.opens.toNat ∧
      w.text <+: (w.step s).text := by
  cases s with
  | line text => exact ⟨rfl, rfl, w.text_isPrefix_line text⟩
  | blank => exact ⟨rfl, rfl, w.text_isPrefix_line []⟩
  | raw text =>
    refine ⟨rfl, rfl, ?_⟩
    rw [step, text_raw]
    exact List.prefix_append _ _
  | openBlock head => exact ⟨rfl, rfl, w.text_isPrefix_line (head ++ " \x7b")⟩
  | closeBlock => exact ⟨rfl, rfl, w.dedent.text_isPrefix_line "\x7d"⟩
  | closeWith text => exact ⟨rfl, rfl, w.dedent.text_isPrefix_line text⟩
  | indent => exact ⟨rfl, rfl, List.prefix_refl _⟩
  | dedent => exact ⟨rfl, rfl, List.prefix_refl _⟩
  | code body =>
    rw [step, code_eq_add]
    exact ⟨rfl, rfl, w.text_isPrefix_add _⟩
  | method m =>
    rw [step, method_eq_add]
    exact ⟨rfl, rfl, w.text_isPrefix_add _⟩
  | doc text =>
    rw [step, doc_eq_add]
    exact ⟨rfl, rfl, w.text_isPrefix_add _⟩

theorem balance_singleton (s : Step) : balance [s] = s.opens.toNat - s.closes.toNat := by
  simp only [balance, List.countP_singleton]
  cases s.opens <;> cases s.closes <;> rfl

/-- A step counts for what it adds to the level, unless there is none to go out of. -/
theorem level_step (w : Writer) (s : Step) :
    ((w.step s).level : Int) = max 0 (w.level + balance [s]) := by
  have hone : s.opens = false ∨ s.closes = false := by cases s <;> simp [Step.opens, Step.closes]
  rw [(step_moves w s).2.1, balance_singleton]
  rcases hone with h | h <;> rw [h, Bool.toNat_false] <;> omega

/-! ### What a run does -/

theorem run_concat (w : Writer) (steps : List Step) (s : Step) :
    w.run (steps ++ [s]) = (w.run steps).step s :=
  List.foldl_concat ..

theorem unit_run (w : Writer) (steps : List Step) : (w.run steps).unit = w.unit := by
  induction steps using List.reverseRecOn with
  | nil => rfl
  | append_singleton steps s ih => rw [run_concat, (step_moves _ s).1, ih]

/-- As many steps out were lost as the balance has ever been below that of the start. -/
theorem level_run_new (unit : Nat) (steps : List Step) :
    (((new unit).run steps).level : Int) = balance steps - lowest steps := by
  induction steps using List.reverseRecOn with
  | nil => rfl
  | append_singleton steps s ih =>
    -- The level stops at none exactly when the balance comes to a new lowest value.
    rw [run_concat, level_step, ih, lowest_concat, balance_concat]
    omega

/-- After any steps on a new writer the indentation is as many units wide as the balance is above
its lowest value so far, and on any writer a step only adds to the text. -/
theorem width_run_new :
    (∀ (unit : Nat) (steps : List Step),
      (((new unit).run steps).width : Int) = unit * (balance steps - lowest steps)) ∧
      ∀ (w : Writer) (s : Step), w.text <+: (w.step s).text := by
  refine ⟨fun unit steps => ?_, fun w s => (step_moves w s).2.2⟩
  have hunit : ((new unit).run steps).unit = unit := unit_run _ _
  rw [width, hunit, Int.natCast_mul, level_run_new]

example : ((new 4).run [.dedent, .openBlock "a", .closeBlock, .closeBlock, .indent]).width = 4 := by
  decide

end TupleRecord.Java.Writer
