import TupleRecord.Proofs.Name.Word

/-!
The upper case of names. It is its own upper case, in every script. Nothing but the underscore has
one in its upper case, and a letter that begins a name has an upper case that does. Upper case can
leave the class of identifiers, though: a few letters have no capital, and stand in upper case as
a capital with combining marks.
-/
namespace TupleRecord

namespace Unicode

/-- The upper case of a text. -/
def upper (text : Text) : Text := text.flatMap toUppercase

@[simp] theorem upper_nil : upper [] = [] := rfl

@[simp] theorem upper_cons (c : Char) (text : Text) :
    upper (c :: text) = toUppercase c ++ upper text := rfl

@[simp] theorem upper_append (a b : Text) : upper (a ++ b) = upper a ++ upper b :=
  List.flatMap_append

theorem upper_flatten (texts : List Text) : upper texts.flatten = (texts.map upper).flatten := by
  induction texts with
  | nil => rfl
  | cons text texts ih => rw [List.flatten_cons, upper_append, ih, List.map_cons, List.flatten_cons]

theorem toUppercase_ne_nil (c : Char) : toUppercase c ≠ [] := by
  rcases toUppercase_cases c with ⟨m, -, hupper⟩ | ⟨image, himage, hupper⟩ | hupper
  · simp [hupper]
  · have htable : ∀ entry ∈ uppercaseExpansions, entry.2 ≠ [] := by decide
    have hne := htable _ (mem_of_expansion?_eq_some himage)
    simpa [hupper] using hne
  · simp [hupper]

theorem upper_ne_nil {text : Text} (h : text ≠ []) : upper text ≠ [] := by
  cases text with
  | nil => exact absurd rfl h
  | cons c text => exact List.append_ne_nil_of_left_ne_nil (toUppercase_ne_nil c) _

theorem toUppercase_underscore : toUppercase '_' = ['_'] := by decide

/-- What is no capital and lies in ASCII is in the upper case of itself alone. -/
theorem eq_of_mem_toUppercase {c d : Char} (h : d ∈ toUppercase c)
    (hd : isWordPoint d.toNat = false) : d = c := by
  rcases mem_toUppercase h with hc | ⟨m, hm, rfl⟩
  · exact hc
  · rw [toNat_ofNat_of_isWordPoint hm, hm] at hd
    cases hd

theorem eq_underscore_of_mem_toUppercase {c : Char} (h : '_' ∈ toUppercase c) : c = '_' :=
  (eq_of_mem_toUppercase h (by decide)).symm

theorem toNat_toUpper_lt {c : Char} (h : c.toNat < 0x80) : c.toUpper.toNat < 0x80 := by
  have htable : ∀ n < 0x80, (Char.ofNat n).toUpper.toNat < 0x80 := by decide
  exact Name.of_ascii (P := fun c => c.toUpper.toNat < 0x80) htable h

theorem upper_of_ascii {text : Text} (h : ∀ c ∈ text, c.toNat < 0x80) :
    upper text = text.map Char.toUpper := by
  induction text with
  | nil => rfl
  | cons c text ih =>
    rw [List.forall_mem_cons] at h
    rw [upper_cons, (seenAsAscii h.1).upper, ih h.2]
    rfl

/-! ### Upper case of upper case -/

/-- Holds if a table maps none of the code points `low`, `low + step`, … up to `high`: its runs end
before them, begin behind them or alternate with them. -/
def Shift.avoid (low high step : Nat) : List Shift → Bool
  | [] => true
  | s :: shifts =>
    match low.ble s.last with
    | false => avoid low high step shifts
    | true =>
      match s.first.ble high with
      | false => high.ble s.last
      | true =>
        s.step == 2 && (step == 2 || low == high) && (s.first + low) % 2 == 1 &&
          avoid low high step shifts

/-- Holds if a table expands no code point from `low` to `high`. -/
def expandsNone (low high : Nat) : List (Nat × List Nat) → Bool
  | [] => true
  | (point, _) :: table =>
    match low.ble point with
    | false => expandsNone low high table
    | true => high.blt point

/-- Holds if none of the code points `low`, `low + step`, … up to `high` has another upper case. -/
def keepsPoints (low high step : Nat) : Bool :=
  Shift.avoid low high step uppercaseShifts && expandsNone low high uppercaseExpansions

theorem Shift.image?_of_avoid {shifts : List Shift} {low high step k : Nat}
    (h : avoid low high step shifts) (hk : low + k ≤ high) (hstep : k % step = 0) :
    image? shifts (low + k) = none := by
  induction shifts with
  | nil => rfl
  | cons s shifts ih =>
    rw [avoid] at h
    rw [image?]
    split at h
    next hbefore =>
      have hlast : ¬low ≤ s.last := by simp [← Nat.ble_eq, hbefore]
      rw [if_neg (by omega), ih h]
    next hreaches =>
      split at h
      next hbehind =>
        have hfirst : ¬s.first ≤ high := by simp [← Nat.ble_eq, hbehind]
        rw [Nat.ble_eq] at h
        rw [if_pos (by omega), if_neg (by simp; omega)]
      next =>
        simp only [Bool.and_eq_true, Bool.or_eq_true, beq_iff_eq] at h
        obtain ⟨⟨⟨htwo, hsteps⟩, hparity⟩, hrest⟩ := h
        -- The members of the run are odd where the code points are even, or the other way round.
        have heven : k % 2 = 0 := by
          rcases hsteps with rfl | rfl
          · exact hstep
          · omega
        have hodd : s.first ≤ low + k → (low + k - s.first) % s.step ≠ 0 := by
          rw [htwo]
          omega
        split
        · rw [if_neg (by simpa using hodd)]
        · exact ih hrest

theorem expansion?_of_expandsNone {table : List (Nat × List Nat)} {low high n : Nat}
    (h : expandsNone low high table) (hlow : low ≤ n) (hhigh : n ≤ high) :
    expansion? table n = none := by
  induction table with
  | nil => rfl
  | cons entry table ih =>
    obtain ⟨point, image⟩ := entry
    rw [expandsNone] at h
    rw [expansion?]
    split at h
    next hbefore =>
      have hpoint : ¬low ≤ point := by simp [← Nat.ble_eq, hbefore]
      rw [if_neg (by omega), if_neg (by omega), ih h]
    next =>
      rw [Nat.blt_eq] at h
      rw [if_pos (by omega)]

theorem toUppercase_of_keepsPoints {low high step k : Nat} (h : keepsPoints low high step)
    (hk : low + k ≤ high) (hstep : k % step = 0) (hpoint : isWordPoint (low + k)) :
    toUppercase (Char.ofNat (low + k)) = [Char.ofNat (low + k)] := by
  rw [keepsPoints, Bool.and_eq_true] at h
  have himage := Shift.image?_of_avoid h.1 hk hstep
  have hexpansion := expansion?_of_expandsNone h.2 (Nat.le_add_right low k) hk
  unfold toUppercase
  rw [toNat_ofNat_of_isWordPoint hpoint, himage, hexpansion]

theorem toUppercase_of_image? {n m : Nat} (h : Shift.image? uppercaseShifts n = some m) :
    toUppercase (Char.ofNat m) = [Char.ofNat m] := by
  have htable : ∀ s ∈ uppercaseShifts,
      keepsPoints s.target (s.target + (s.last - s.first)) s.step := by
    decide +kernel
  have hpoint := isWordPoint_of_image? h
  obtain ⟨s, hs, hfirst, hlast, hstep, rfl⟩ := Shift.mem_of_image?_eq_some h
  exact toUppercase_of_keepsPoints (htable s hs) (by omega) hstep hpoint

theorem toUppercase_of_expansion? {n : Nat} {image : List Nat}
    (h : expansion? uppercaseExpansions n = some image) :
    ∀ m ∈ image, toUppercase (Char.ofNat m) = [Char.ofNat m] := by
  have htable : ∀ entry ∈ uppercaseExpansions, ∀ m ∈ entry.2, keepsPoints m m 1 := by
    decide +kernel
  intro m hm
  have hkept := htable _ (mem_of_expansion?_eq_some h) m hm
  exact toUppercase_of_keepsPoints (k := 0) hkept (Nat.le_refl m) (Nat.mod_one 0)
    (isWordPoint_of_expansion? h m hm)

/-- What is in upper case is its own upper case. -/
theorem upper_toUppercase (c : Char) : upper (toUppercase c) = toUppercase c := by
  have hkept {text : Text} (h : ∀ d ∈ text, toUppercase d = [d]) : upper text = text := by
    induction text with
    | nil => rfl
    | cons d text ih =>
      rw [List.forall_mem_cons] at h
      rw [upper_cons, h.1, ih h.2]
      rfl
  rcases toUppercase_cases c with ⟨m, hm, hupper⟩ | ⟨image, himage, hupper⟩ | hupper
  · rw [hupper]
    exact hkept (by simpa using toUppercase_of_image? hm)
  · rw [hupper]
    exact hkept (by simpa using toUppercase_of_expansion? himage)
  · rw [hupper, upper_cons, hupper]
    rfl

/-! ### Letters without a capital -/

/-- The letters that upper case spells with combining marks. -/
def markedLetters : List Char :=
  [0x1F0, 0x390, 0x3B0, 0x1E96, 0x1E97, 0x1E98, 0x1E99, 0x1F50, 0x1F52, 0x1F54, 0x1F56, 0x1FB6,
   0x1FB7, 0x1FC6, 0x1FC7, 0x1FD2, 0x1FD3, 0x1FD6, 0x1FD7, 0x1FE2, 0x1FE3, 0x1FE4, 0x1FE6, 0x1FE7,
   0x1FF6, 0x1FF7].map Char.ofNat

/-- Holds if one run without gaps has everything from `low` to `high`. -/
def Run.coversInterval (low high : Nat) : List Run → Bool
  | [] => false
  | r :: runs =>
    bif low.ble r.last then r.first.ble low && high.ble r.last && r.step == 1
    else coversInterval low high runs

theorem Run.covers_of_coversInterval {runs : List Run} {low high n : Nat}
    (h : coversInterval low high runs) (hlow : low ≤ n) (hhigh : n ≤ high) : covers runs n := by
  induction runs with
  | nil => cases h
  | cons r runs ih =>
    rw [coversInterval] at h
    rw [covers]
    by_cases hlast : low ≤ r.last
    · rw [Nat.ble_eq_true_of_le hlast, cond_true] at h
      simp only [Bool.and_eq_true, Nat.ble_eq, beq_iff_eq] at h
      obtain ⟨⟨hfirst, hend⟩, hstep⟩ := h
      rw [if_pos (by omega), contains, hstep, Nat.mod_one]
      simp only [Bool.and_eq_true, decide_eq_true_eq, beq_self_eq_true, and_true]
      omega
    · have hpassed : low.ble r.last = false := by rwa [← Bool.not_eq_true, Nat.ble_eq]
      rw [hpassed, cond_false] at h
      rw [if_neg (by omega)]
      exact ih h

theorem isAlphabetic_of_image? {n m : Nat} (h : Shift.image? uppercaseShifts n = some m) :
    isAlphabetic (Char.ofNat m) := by
  -- Almost every run is mapped into one run of letters, which spares its members a look each.
  have htable : ∀ s ∈ uppercaseShifts,
      Run.coversInterval s.target (s.target + (s.last - s.first)) alphabeticRuns ∨
        ∀ k ≤ s.last - s.first, k % s.step = 0 → Run.covers alphabeticRuns (s.target + k) := by
    decide +kernel
  rw [isAlphabetic, toNat_ofNat_of_isWordPoint (isWordPoint_of_image? h)]
  obtain ⟨s, hs, hfirst, hlast, hstep, rfl⟩ := Shift.mem_of_image?_eq_some h
  rcases htable s hs with hinterval | hmembers
  · exact Run.covers_of_coversInterval hinterval (by omega) (by omega)
  · exact hmembers (n - s.first) (by omega) hstep

/-- What upper case makes of one character begins with a letter, and the rest are letters too
unless the character is one of the marked. -/
theorem isAlphabetic_of_expansion? {n : Nat} {image : List Nat}
    (h : expansion? uppercaseExpansions n = some image) :
    (∃ m rest, image = m :: rest ∧ isAlphabetic (Char.ofNat m)) ∧
      (Char.ofNat n ∉ markedLetters → ∀ m ∈ image, isAlphabetic (Char.ofNat m)) := by
  have hfirst : ∀ entry ∈ uppercaseExpansions,
      entry.2.head?.any fun m => isAlphabetic (Char.ofNat m) := by
    decide +kernel
  have hall : ∀ entry ∈ uppercaseExpansions, Char.ofNat entry.1 ∉ markedLetters →
      ∀ m ∈ entry.2, isAlphabetic (Char.ofNat m) := by
    decide +kernel
  have hentry := mem_of_expansion?_eq_some h
  refine ⟨?_, hall _ hentry⟩
  cases image with
  | nil => cases hfirst _ hentry
  | cons m rest => exact ⟨m, rest, rfl, hfirst _ hentry⟩

end Unicode

namespace Name

open Unicode

theorem isIdentifierStart_of_isAlphabetic {c : Char} (h : isAlphabetic c) :
    isIdentifierStart c := by
  simp [isIdentifierStart, h]

/-- A character that begins a name has an upper case that does. -/
theorem toUppercase_of_isIdentifierStart {c : Char} (h : isIdentifierStart c) :
    ∃ d rest, toUppercase c = d :: rest ∧ isIdentifierStart d := by
  rcases toUppercase_cases c with ⟨m, hm, hupper⟩ | ⟨image, himage, hupper⟩ | hupper
  · exact ⟨_, [], hupper, isIdentifierStart_of_isAlphabetic (isAlphabetic_of_image? hm)⟩
  · obtain ⟨⟨m, rest, rfl, hletter⟩, -⟩ := isAlphabetic_of_expansion? himage
    exact ⟨_, _, hupper, isIdentifierStart_of_isAlphabetic hletter⟩
  · exact ⟨c, [], hupper, h⟩

/-- The class of the characters of identifiers is closed under upper case, but for the marked
letters. -/
theorem all_toUppercase_iff {c : Char} (h : isIdentifierPart c) :
    (toUppercase c).all isIdentifierPart ↔ c ∉ markedLetters := by
  constructor
  · have hmarked : markedLetters.all fun c => !(toUppercase c).all isIdentifierPart := by
      decide +kernel
    intro hall hc
    have hnot := List.all_eq_true.mp hmarked c hc
    rw [hall] at hnot
    cases hnot
  · have hletter {d : Char} (hd : isAlphabetic d) : isIdentifierPart d :=
      isIdentifierPart_of_isIdentifierStart (isIdentifierStart_of_isAlphabetic hd)
    intro hc
    rw [List.all_eq_true]
    rcases toUppercase_cases c with ⟨m, hm, hupper⟩ | ⟨image, himage, hupper⟩ | hupper <;>
      rw [hupper]
    · simpa using hletter (isAlphabetic_of_image? hm)
    · rw [List.forall_mem_map]
      rw [← Char.ofNat_toNat c] at hc
      exact fun m hm => hletter ((isAlphabetic_of_expansion? himage).2 hc m hm)
    · simpa using h

end Name
end TupleRecord
