import TupleRecord.Proofs.CompilationUnit.Store

/-!
Several units in one tree. Units with different qualified names are stored at places of which none
leads to another, so what one of them does is not seen at the place of the next: in any order each
ends as it would alone, and the tree is the same in the end.
-/
namespace TupleRecord

open FileTree

/-- Places of which neither is on the way to the other. -/
def FileTree.Apart (p q : Place) : Prop := ¬ p <+: q ∧ ¬ q <+: p

theorem FileTree.Apart.symm {p q : Place} (h : Apart p q) : Apart q p := ⟨h.2, h.1⟩

/-- A file changes nothing for a place apart from its own: the folders above both were no files
before, and are none afterwards. -/
theorem FileTree.Written.blocked_iff {t t' : FileTree} {place p : Place} {content : Bytes}
    (h : Written t place content t') (hfree : ¬ t.Blocked place) (hp : Apart p place) :
    t'.Blocked p ↔ t.Blocked p := by
  have hway : ∀ q, IsAbove q p → ∀ other,
      t'.lookup q = some (.file other) ↔ t.lookup q = some (.file other) := by
    intro q hq other
    by_cases hshared : q <+: place
    · have habove : IsAbove q place := by
        refine ⟨hshared, ?_⟩
        rintro rfl
        exact hp.2 hq.1
      refine iff_of_false ?_ fun hfile => hfree (.inl ⟨q, habove, other, hfile⟩)
      rw [h.above q habove]
      simp
    · rw [h.elsewhere q hshared]
  unfold Blocked
  rw [h.elsewhere p hp.1]
  refine or_congr_left (exists_congr fun q => and_congr_right fun hq => ?_)
  exact exists_congr fun other => hway q hq other

namespace CompilationUnit

/-- Stores units one after the other. -/
def storeAll (t : FileTree) (dir : Text) :
    List CompilationUnit → List (Except StoreError Stored) × FileTree
  | [] => ([], t)
  | u :: units =>
    let (outcome, t) := u.store t dir
    let (outcomes, t) := storeAll t dir units
    (outcome :: outcomes, t)

/-- What a tree becomes by the files of some units: the files that were not blocked, folders above
them, and no other change. -/
structure AllWritten (t : FileTree) (root : Place) (units : List CompilationUnit) (t' : FileTree) :
    Prop where
  file : ∀ u ∈ units, ¬ t.Blocked (u.place root) →
    t'.lookup (u.place root) = some (.file u.content)
  above : ∀ u ∈ units, ¬ t.Blocked (u.place root) → ∀ q, IsAbove q (u.place root) →
    t'.lookup q = some .folder
  elsewhere : ∀ q, (∀ u ∈ units, ¬ t.Blocked (u.place root) → ¬ q <+: u.place root) →
    t'.lookup q = t.lookup q

/-- The tree depends on the units alone, not on their order. -/
theorem AllWritten.lookup_eq {t t₁ t₂ : FileTree} {root : Place} {a b : List CompilationUnit}
    (ha : AllWritten t root a t₁) (hb : AllWritten t root b t₂) (h : ∀ u, u ∈ a ↔ u ∈ b)
    (q : Place) : t₁.lookup q = t₂.lookup q := by
  by_cases hq : ∃ u ∈ a, ¬ t.Blocked (u.place root) ∧ q <+: u.place root
  · obtain ⟨u, hu, hfree, hstart⟩ := hq
    by_cases heq : q = u.place root
    · rw [heq, ha.file u hu hfree, hb.file u ((h u).mp hu) hfree]
    · rw [ha.above u hu hfree q ⟨hstart, heq⟩, hb.above u ((h u).mp hu) hfree q ⟨hstart, heq⟩]
  · have hnot : ∀ u ∈ a, ¬ t.Blocked (u.place root) → ¬ q <+: u.place root :=
      fun u hu hfree hstart => hq ⟨u, hu, hfree, hstart⟩
    rw [ha.elsewhere q hnot, hb.elsewhere q fun u hu => hnot u ((h u).mpr hu)]

variable {u v : CompilationUnit} {t : FileTree} {dir : Text} {root : Place}

/-- How a unit ends depends on its own place alone. -/
theorem StoredAt.outcome_congr {t' : FileTree} {place : Place} (h : u.StoredAt t dir place)
    (h' : u.StoredAt t' dir place) (hblocked : t'.Blocked place ↔ t.Blocked place)
    (hlookup : t'.lookup place = t.lookup place) : (u.store t' dir).1 = (u.store t dir).1 := by
  by_cases hb : t.Blocked place
  · rw [h.blocked hb, h'.blocked (hblocked.mpr hb)]
  · obtain ⟨written, last, hstore, hsame, -⟩ := h.free hb
    obtain ⟨written', last', hstore', hsame', -⟩ := h'.free (mt hblocked.mp hb)
    have hwritten : written' = written := by
      rw [hlookup, ← hsame] at hsame'
      simpa using hsame'
    rw [hstore, hstore', hwritten]

/-- Storing a unit leaves the way to the folder open, and all places apart as they were. -/
theorem Placed.store_step (hu : u.Placed) (ht : t.WellFormed) (hdir : t.Leads dir root) :
    (u.store t dir).2.Leads dir root ∧ ∀ p, Apart p (u.place root) →
      ((u.store t dir).2.Blocked p ↔ t.Blocked p) ∧ (u.store t dir).2.lookup p = t.lookup p := by
  have hstored := hu.storedAt ht hdir
  by_cases hb : t.Blocked (u.place root)
  · rw [hstored.blocked hb]
    exact ⟨hdir, fun p _ => ⟨Iff.rfl, rfl⟩⟩
  · obtain ⟨written, t', hstore, -, -, hwritten, -⟩ := hstored.free hb
    rw [hstore]
    refine ⟨hdir.mono fun _ => hwritten.keeps_folder hb, ?_⟩
    intro p hp
    exact ⟨hwritten.blocked_iff hb hp, hwritten.elsewhere p hp.1⟩

/-- One unit is stored, and then others whose places are apart from its own. -/
theorem AllWritten.cons {t' : FileTree} {units : List CompilationUnit} (hu : u.Placed)
    (ht : t.WellFormed) (hdir : t.Leads dir root)
    (hapart : ∀ v ∈ units, Apart (v.place root) (u.place root))
    (h : AllWritten (u.store t dir).2 root units t') : AllWritten t root (u :: units) t' := by
  have hstored := hu.storedAt ht hdir
  have hblocked : ∀ v ∈ units,
      ((u.store t dir).2.Blocked (v.place root) ↔ t.Blocked (v.place root)) :=
    fun v hv => ((hu.store_step ht hdir).2 _ (hapart v hv)).1
  -- The units behind leave the file and the folders above it as they find them.
  have hkeeps : ∀ q, q <+: u.place root →
      (q ≠ u.place root → (u.store t dir).2.lookup q = some .folder) →
      t'.lookup q = (u.store t dir).2.lookup q := by
    intro q hq hfolder
    by_cases hshared : ∃ v ∈ units, ¬ (u.store t dir).2.Blocked (v.place root) ∧
        q <+: v.place root
    · obtain ⟨v, hv, hfree, hstart⟩ := hshared
      have hown : q ≠ u.place root := by
        rintro rfl
        exact (hapart v hv).2 hstart
      have hother : q ≠ v.place root := by
        rintro rfl
        exact (hapart v hv).1 hq
      rw [h.above v hv hfree q ⟨hstart, hother⟩, hfolder hown]
    · exact h.elsewhere q fun v hv hfree hstart => hshared ⟨v, hv, hfree, hstart⟩
  have hfirst : ¬ t.Blocked (u.place root) → Written t (u.place root) u.content
      (u.store t dir).2 := by
    intro hfree
    obtain ⟨written, t₁, hstore, -, -, hwritten, -⟩ := hstored.free hfree
    rw [hstore]
    exact hwritten
  constructor
  · intro v hv hfree
    rcases List.mem_cons.mp hv with rfl | hv
    · rw [hkeeps _ List.prefix_rfl (absurd rfl), (hfirst hfree).file]
    · exact h.file v hv (mt (hblocked v hv).mp hfree)
  · intro v hv hfree q hq
    rcases List.mem_cons.mp hv with rfl | hv
    · have hfolder := (hfirst hfree).above q hq
      rw [hkeeps q hq.1 fun _ => hfolder, hfolder]
    · exact h.above v hv (mt (hblocked v hv).mp hfree) q hq
  · intro q hq
    rw [List.forall_mem_cons] at hq
    have hlater := h.elsewhere q fun v hv hfree => hq.2 v hv (mt (hblocked v hv).mpr hfree)
    rw [hlater]
    by_cases hb : t.Blocked (u.place root)
    · rw [hstored.blocked hb]
    · exact (hfirst hb).elsewhere q (hq.1 hb)

/-- Units at places apart end as each would alone, and leave one tree behind. -/
theorem storeAll_apart {units : List CompilationUnit} (hunits : ∀ u ∈ units, u.Placed)
    (hapart : units.Pairwise fun u v => Apart (u.place root) (v.place root)) (ht : t.WellFormed)
    (hdir : t.Leads dir root) :
    (storeAll t dir units).1 = units.map (fun u => (u.store t dir).1) ∧
      AllWritten t root units (storeAll t dir units).2 := by
  induction units generalizing t with
  | nil => exact ⟨rfl, by simp, by simp, fun _ _ => rfl⟩
  | cons u units ih =>
    rw [List.forall_mem_cons] at hunits
    rw [List.pairwise_cons] at hapart
    have hothers : ∀ v ∈ units, Apart (v.place root) (u.place root) :=
      fun v hv => (hapart.1 v hv).symm
    have ht' := wellFormed_store ht u dir
    obtain ⟨hdir', hsame⟩ := hunits.1.store_step ht hdir
    obtain ⟨houtcomes, hwritten⟩ := ih hunits.2 hapart.2 ht' hdir'
    refine ⟨?_, hwritten.cons hunits.1 ht hdir hothers⟩
    have halone : units.map (fun v => (v.store (u.store t dir).2 dir).1) =
        units.map fun v => (v.store t dir).1 := by
      apply List.map_congr_left
      intro v hv
      obtain ⟨hblocked, hlookup⟩ := hsame _ (hothers v hv)
      have hplaced := hunits.2 v hv
      exact (hplaced.storedAt ht hdir).outcome_congr (hplaced.storedAt ht' hdir') hblocked hlookup
    have hcons : (storeAll t dir (u :: units)).1 =
        (u.store t dir).1 :: (storeAll (u.store t dir).2 dir units).1 := rfl
    rw [hcons, houtcomes, halone, List.map_cons]

theorem Generated.apart (hu : u.Generated) (hv : v.Generated)
    (h : u.qualifiedName ≠ v.qualifiedName) (root : Place) :
    Apart (u.place root) (v.place root) := by
  have hne : FileTree.route u.path ≠ FileTree.route v.path :=
    fun hroute => h ((hu.path_eq_iff hv).mp (hu.route_inj hv hroute))
  unfold Apart place
  rw [List.prefix_append_right_inj, List.prefix_append_right_inj]
  exact ⟨fun hstart => hu.not_isAbove hv ⟨hstart, hne⟩,
    fun hstart => hv.not_isAbove hu ⟨hstart, hne.symm⟩⟩

/-- Units that templates have keep out of each other's way, in any tree and in any order. -/
theorem generated_separate {units : List CompilationUnit} (h : ∀ u ∈ units, u.Generated) :
    (∀ u ∈ units, u.Placed) ∧
    (∀ u ∈ units, ∀ v ∈ units, (u.path = v.path ↔ u.qualifiedName = v.qualifiedName) ∧
      ¬ IsAbove (FileTree.route u.path) (FileTree.route v.path)) ∧
    (units.Pairwise (fun u v => u.qualifiedName ≠ v.qualifiedName) →
      ∀ (t : FileTree) (dir : Text) (root : Place), t.WellFormed → t.Leads dir root →
      ∀ order : List CompilationUnit, order.Perm units →
        (storeAll t dir order).1 = order.map (fun u => (u.store t dir).1) ∧
        ∀ p, (storeAll t dir order).2.lookup p = (storeAll t dir units).2.lookup p) := by
  refine ⟨fun u hu => (h u hu).placed, ?_, ?_⟩
  · intro u hu v hv
    exact ⟨(h u hu).path_eq_iff (h v hv), (h u hu).not_isAbove (h v hv)⟩
  · intro hnames t dir root ht hdir order horder
    have hrun (l : List CompilationUnit) (hl : l.Perm units) := by
      have hgenerated : ∀ u ∈ l, u.Generated := fun u hu => h u (hl.mem_iff.mp hu)
      have hdifferent := (hl.pairwise_iff fun hne => hne.symm).mpr hnames
      have hapart : l.Pairwise fun u v => Apart (u.place root) (v.place root) :=
        hdifferent.imp_of_mem fun hu hv hne =>
          (hgenerated _ hu).apart (hgenerated _ hv) hne root
      exact storeAll_apart (fun u hu => (hgenerated u hu).placed) hapart ht hdir
    refine ⟨(hrun order horder).1, ?_⟩
    exact (hrun order horder).2.lookup_eq (hrun units (.refl units)).2 fun u => horder.mem_iff

theorem generated_separate_crowded :
    ∃ u v t, u.Generated ∧ v.Generated ∧ u.qualifiedName ≠ v.qualifiedName ∧
      FileTree.WellFormed t ∧ t.Leads "gen" ["gen"] ∧
      (storeAll t "gen" [v, u]).1 = [(v.store t "gen").1, (u.store t "gen").1] ∧
      ∀ p, (storeAll t "gen" [v, u]).2.lookup p = (storeAll t "gen" [u, v]).2.lookup p := by
  obtain ⟨u, v, hu, hv, hne⟩ : ∃ u v : CompilationUnit, u.Generated ∧ v.Generated ∧
      u.qualifiedName ≠ v.qualifiedName := by
    have hother : Accepted { classEnding := "Row" } .crowded := by decide +kernel
    refine ⟨_, _, ⟨_, _, generate_crowded⟩, ⟨_, _, generate_eq_ok_iff.mpr ⟨hother, rfl⟩⟩, ?_⟩
    decide +kernel
  have ht := wellFormed_empty.write "gen/notes" [0xFF, 0x00]
  have hdir : (empty.write "gen/notes" [0xFF, 0x00]).1.Leads "gen" ["gen"] :=
    ⟨by decide, by decide, by decide⟩
  have hunits : ∀ w ∈ [u, v], w.Generated := by simp [hu, hv]
  have hnames : [u, v].Pairwise fun u v => u.qualifiedName ≠ v.qualifiedName := by simpa using hne
  obtain ⟨houtcomes, htree⟩ :=
    (generated_separate hunits).2.2 hnames _ "gen" ["gen"] ht hdir [v, u] (.swap u v [])
  exact ⟨u, v, _, hu, hv, hne, ht, hdir, houtcomes, htree⟩

end CompilationUnit
end TupleRecord
