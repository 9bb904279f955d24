import TupleRecord.CompilationUnit.Store
import TupleRecord.Proofs.CompilationUnit.Path

/-!
Storing a unit below a folder of a tree. Either the file of the unit cannot be where it belongs,
and nothing is made, or it is there afterwards and nothing else has changed; a file that holds the
source already is left alone.
-/
namespace TupleRecord

open FileTree

theorem FileTree.Written.refl {t : FileTree} (ht : t.WellFormed) {place : Place} {content : Bytes}
    (h : t.lookup place = some (.file content)) : Written t place content t :=
  ⟨h, fun _ hq => ht.folder_above h hq, fun _ _ => rfl⟩

/-- No folder is lost by a file that could be written. -/
theorem FileTree.Written.keeps_folder {t t' : FileTree} {place : Place} {content : Bytes}
    (h : Written t place content t') (hfree : ¬ t.Blocked place) {q : Place}
    (hq : t.lookup q = some .folder) : t'.lookup q = some .folder := by
  by_cases hstart : q <+: place
  · apply h.above q ⟨hstart, ?_⟩
    rintro rfl
    exact hfree (.inr hq)
  · rw [h.elsewhere q hstart, hq]

namespace CompilationUnit

variable {u : CompilationUnit} {t : FileTree} {dir : Text} {root : Place}

theorem store_of_read? (h : t.read? (extendPath dir u.path) = some u.content) :
    u.store t dir = (.ok ⟨extendPath dir u.path, false⟩, t) := by
  unfold store
  exact if_pos h

theorem store_of_read?_ne (h : t.read? (extendPath dir u.path) ≠ some u.content) {t' : FileTree}
    {done : Bool} (hwrite : t.write (extendPath dir u.path) u.content = (t', done)) :
    u.store t dir =
      (if done then .ok ⟨extendPath dir u.path, true⟩ else .error .notWritable, t') := by
  unfold store
  dsimp only
  rw [if_neg h, hwrite]
  cases done <;> rfl

theorem wellFormed_store (ht : t.WellFormed) (u : CompilationUnit) (dir : Text) :
    (u.store t dir).2.WellFormed := by
  by_cases hread : t.read? (extendPath dir u.path) = some u.content
  · rw [store_of_read? hread]
    exact ht
  · have hwritten := ht.write (extendPath dir u.path) u.content
    cases hwrite : t.write (extendPath dir u.path) u.content with
    | mk t' done =>
      rw [hwrite] at hwritten
      rw [store_of_read?_ne hread hwrite]
      exact hwritten

/-- What storing a unit does whose file belongs at a place: it fails and does nothing if the place
is blocked, and else the file is there and nothing else has changed. -/
structure StoredAt (u : CompilationUnit) (t : FileTree) (dir : Text) (place : Place) : Prop where
  blocked : t.Blocked place → u.store t dir = (.error .notWritable, t)
  free : ¬ t.Blocked place → ∃ (written : Bool) (t' : FileTree),
    u.store t dir = (.ok ⟨extendPath dir u.path, written⟩, t') ∧
      (written = false ↔ t.lookup place = some (.file u.content)) ∧ (written = false → t' = t) ∧
      Written t place u.content t' ∧ t'.read? (extendPath dir u.path) = some u.content ∧
      u.store t' dir = (.ok ⟨extendPath dir u.path, false⟩, t')

theorem Placed.storedAt (hu : u.Placed) (ht : t.WellFormed) (hdir : t.Leads dir root) :
    u.StoredAt t dir (u.place root) := by
  have hread {t' : FileTree} (ht' : t'.WellFormed) (hdir' : t'.Leads dir root) :
      t'.read? (extendPath dir u.path) = some u.content ↔
        t'.lookup (u.place root) = some (.file u.content) :=
    read?_extendPath ht' hdir' hu.relative hu.named
  constructor
  · intro hblocked
    have hother : t.read? (extendPath dir u.path) ≠ some u.content := by
      rw [ne_eq, hread ht hdir]
      intro hfile
      rcases hblocked with ⟨q, hq, content, hway⟩ | hfolder
      · rw [ht.folder_above hfile hq] at hway
        cases hway
      · rw [hfile] at hfolder
        cases hfolder
    exact store_of_read?_ne hother (write_of_blocked ht hdir hu.relative hu.named hblocked)
  · intro hfree
    by_cases hfile : t.lookup (u.place root) = some (.file u.content)
    · have hsame := (hread ht hdir).mpr hfile
      have hstore := store_of_read? hsame
      exact ⟨false, t, hstore, iff_of_true rfl hfile, fun _ => rfl, .refl ht hfile, hsame, hstore⟩
    · have hother : t.read? (extendPath dir u.path) ≠ some u.content := by
        rwa [ne_eq, hread ht hdir]
      obtain ⟨t', hwrite, hwritten⟩ := write_of_free ht hdir hu.relative hu.named hfree
      have ht' := ht.write (extendPath dir u.path) u.content
      rw [hwrite] at ht'
      have hthere := (hread ht' (hdir.mono fun _ => hwritten.keeps_folder hfree)).mpr hwritten.file
      exact ⟨true, t', store_of_read?_ne hother hwrite, iff_of_false (by simp) hfile, by simp,
        hwritten, hthere, store_of_read? hthere⟩

/-- A unit that a template has is stored as a whole or not at all, and a template that has none
leaves the tree alone. -/
theorem generate_storedAt {t : FileTree} (ht : t.WellFormed) {dir : Text} {root : Place}
    (hdir : t.Leads dir root) :
    (∀ (s : Settings) (template : Template) (u : CompilationUnit), generate s template = .ok u →
      u.StoredAt t dir (u.place root)) ∧
    ∀ (template : Template) (e : RecordClass.Error), generate {} template = .error e →
      template.generateInto t dir = (.error (.recordClass e), t) := by
  constructor
  · intro s template u hu
    exact Generated.placed ⟨s, template, hu⟩ |>.storedAt ht hdir
  · intro template e he
    simp only [Template.generateInto, he]

/-- The folder has a file that is no text. -/
theorem generate_storedAt_crowded :
    ∃ u t, generate {} .crowded = .ok u ∧ FileTree.WellFormed t ∧ t.Leads "gen/." ["gen"] ∧
      (u.store t "gen/.").1 = .ok ⟨"gen/./com/example/CrowdedDatum.java", true⟩ ∧
      u.StoredAt t "gen/." (u.place ["gen"]) := by
  have ht := wellFormed_empty.write "gen/notes" [0xFF, 0x00]
  have hdir : (empty.write "gen/notes" [0xFF, 0x00]).1.Leads "gen/." ["gen"] :=
    ⟨by decide, by decide, by decide⟩
  exact ⟨_, _, generate_crowded, ht, hdir, by decide +kernel,
    (generate_storedAt ht hdir).1 {} .crowded _ generate_crowded⟩

end CompilationUnit
end TupleRecord
