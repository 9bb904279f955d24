import Mathlib.Data.List.TakeWhile
import TupleRecord.CompilationUnit.Basic
import TupleRecord.Proofs.FileTree.WellFormed
import TupleRecord.Proofs.Text.Pieces

/-!
Reading and writing behind a path that leads to a folder. A path is extended by names that entries
of their own can have, so the way on from the folder goes down name by name, and what happens at
its end depends on the entries on the way alone: `read?_extendPath`, `write_of_blocked` and
`write_of_free` say how.
-/
namespace TupleRecord.FileTree

/-- Holds of a name that an entry can have. -/
structure IsName (name : Text) : Prop where
  nonempty : name ≠ []
  notHere : name ≠ "."
  notUp : name ≠ ".."
  noSlash : '/' ∉ name
  noNull : '\x00' ∉ name

/-- A path that leads to a folder of a tree. -/
structure Leads (t : FileTree) (path : Text) (place : Place) : Prop where
  storable : isStorable (route path)
  walk : t.walk? [] (route path) = some place
  folder : t.lookup place = some .folder

/-- Holds of a place where no file can be written: a file is in the way, or a folder is there. -/
def Blocked (t : FileTree) (place : Place) : Prop :=
  (∃ q, IsAbove q place ∧ ∃ content, t.lookup q = some (.file content)) ∨
    t.lookup place = some .folder

/-- What a tree becomes by a file: folders above it where there were none, and no other change. -/
structure Written (t : FileTree) (place : Place) (content : Bytes) (t' : FileTree) : Prop where
  file : t'.lookup place = some (.file content)
  above : ∀ q, IsAbove q place → t'.lookup q = some .folder
  elsewhere : ∀ q, ¬ q <+: place → t'.lookup q = t.lookup q

/-! ## Routes of paths -/

theorem route_append_slash (a b : Text) : route (a ++ '/' :: b) = route a ++ route b :=
  Text.split_append_cons '/' a b

theorem route_of_noSlash {name : Text} (h : '/' ∉ name) : route name = [name] :=
  Text.split_of_notMem h

/-- A path without its last name ends with a slash, unless nothing is left. -/
theorem route_parentAndName (path : Text) :
    ∃ above, route path = above ++ [(parentAndName path).2] ∧
      route (parentAndName path).1 = above ++ [[]] := by
  have hpath : (parentAndName path).1 ++ (parentAndName path).2 = path := by
    rw [parentAndName, Text.afterLast, ← List.reverse_append, List.takeWhile_append_dropWhile,
      List.reverse_reverse]
  have hname : '/' ∉ (parentAndName path).2 := by
    intro hmem
    rw [parentAndName, Text.afterLast, List.mem_reverse] at hmem
    simpa using List.mem_takeWhile_imp hmem
  have hparent : (parentAndName path).1 = [] ∨ ∃ a, (parentAndName path).1 = a ++ ['/'] := by
    unfold parentAndName
    cases hrest : path.reverse.dropWhile (· != '/') with
    | nil => exact .inl rfl
    | cons c rest =>
      have hc := List.head?_dropWhile_not (· != '/') path.reverse
      rw [hrest] at hc
      obtain rfl : c = '/' := by simpa using hc
      exact .inr ⟨rest.reverse, by simp⟩
  rcases hparent with hnone | ⟨a, ha⟩
  · refine ⟨[], ?_, ?_⟩
    · rw [hnone, List.nil_append] at hpath
      rw [List.nil_append, ← route_of_noSlash hname, hpath]
    · rw [hnone]
      rfl
  · refine ⟨route a, ?_, ?_⟩
    · rw [ha, List.append_assoc, List.singleton_append] at hpath
      rw [← route_of_noSlash hname, ← route_append_slash, hpath]
    · rw [ha, route_append_slash]
      rfl

/-- An extended path goes where the path goes and then on, apart from empty names. -/
theorem route_extendPath (path : Text) {part : Text} (h : part.head? ≠ some '/') :
    ∃ names, route (extendPath path part) = names ++ route part ∧
      (route path = names ∨ route path = names ++ [[]]) := by
  unfold extendPath
  rw [if_neg h]
  by_cases hend : path = [] ∨ path.getLast? = some '/'
  · rw [if_pos hend]
    rcases hend with rfl | hlast
    · exact ⟨[], rfl, .inr rfl⟩
    · obtain ⟨a, rfl⟩ := List.getLast?_eq_some_iff.mp hlast
      refine ⟨route a, ?_, .inr (route_append_slash a [])⟩
      rw [List.append_assoc, List.singleton_append, route_append_slash]
  · rw [if_neg hend]
    refine ⟨route path, ?_, .inl rfl⟩
    rw [List.append_assoc]
    exact route_append_slash path part

/-! ## Walks -/

section
variable {t : FileTree} {here there : Place} {names : List Text}

theorem follow_of_isName {name : Text} (h : IsName name) (here : Place) :
    follow here name = here ++ [name] := by
  rw [follow, if_neg (not_or.mpr ⟨h.nonempty, h.notHere⟩), if_neg h.notUp]

theorem walk?_append (t : FileTree) (here : Place) (a b : List Text) :
    t.walk? here (a ++ b) = (t.walk? here a).bind (t.walk? · b) := by
  induction a generalizing here with
  | nil => rfl
  | cons name a ih =>
    rw [List.cons_append, walk?, walk?, ih]
    split <;> rfl

theorem eq_of_walk? (hnames : ∀ name ∈ names, IsName name)
    (h : t.walk? here names = some there) : there = here ++ names := by
  induction names generalizing here with
  | nil =>
    obtain rfl : here = there := Option.some.inj h
    simp
  | cons name names ih =>
    rw [List.forall_mem_cons] at hnames
    rw [walk?, follow_of_isName hnames.1] at h
    split at h
    · rw [ih hnames.2 h, List.append_assoc, List.singleton_append]
    · cases h

/-- Every entry of a well-formed tree can be reached from the folders above it. -/
theorem WellFormed.walk?_of_lookup (ht : t.WellFormed) (hnames : ∀ name ∈ names, IsName name)
    {e : Entry} (h : t.lookup (here ++ names) = some e) :
    t.walk? here names = some (here ++ names) := by
  induction names generalizing here with
  | nil => simp [walk?]
  | cons name names ih =>
    rw [List.forall_mem_cons] at hnames
    have habove : IsAbove here (here ++ name :: names) := ⟨List.prefix_append .., by simp⟩
    have hnext : here ++ name :: names = (here ++ [name]) ++ names := by simp
    rw [walk?, if_pos (ht.folder_above h habove), follow_of_isName hnames.1, hnext]
    rw [hnext] at h
    exact ih hnames.2 h

theorem walk?_mono {t' : FileTree}
    (hfolders : ∀ p, t.lookup p = some .folder → t'.lookup p = some .folder)
    (h : t.walk? here names = some there) : t'.walk? here names = some there := by
  induction names generalizing here with
  | nil => exact h
  | cons name names ih =>
    rw [walk?] at h ⊢
    split at h
    · next hhere =>
      rw [if_pos (hfolders here hhere)]
      exact ih h
    · cases h

theorem isStorable_of_walk? (hhere : isStorable here) (hnames : isStorable names)
    (h : t.walk? here names = some there) : isStorable there := by
  induction names generalizing here with
  | nil =>
    obtain rfl : here = there := Option.some.inj h
    exact hhere
  | cons name names ih =>
    rw [isStorable, List.all_cons, Bool.and_eq_true] at hnames
    rw [walk?] at h
    split at h
    · refine ih ?_ hnames.2 h
      rw [isStorable, List.all_eq_true] at hhere ⊢
      intro other hother
      unfold follow at hother
      split_ifs at hother
      · exact hhere other hother
      · exact hhere other (List.mem_of_mem_dropLast hother)
      · rcases List.mem_append.mp hother with hother | hother
        · exact hhere other hother
        · rw [List.mem_singleton.mp hother]
          exact hnames.1
    · cases h

/-! ## Making folders -/

theorem makeRoute_append (t : FileTree) (here : Place) (a b : List Text) :
    t.makeRoute here (a ++ b) =
      match t.makeRoute here a with
      | (t, none) => (t, none)
      | (t, some there) => t.makeRoute there b := by
  induction a generalizing t here with
  | nil => rfl
  | cons name a ih =>
    rw [List.cons_append]
    cases hlookup : t.lookup (follow here name) with
    | none => rw [makeRoute_cons_of_none hlookup, makeRoute_cons_of_none hlookup, ih]
    | some e =>
      cases e with
      | folder => rw [makeRoute_cons_of_folder hlookup, makeRoute_cons_of_folder hlookup, ih]
      | file content => rw [makeRoute_cons_of_file hlookup, makeRoute_cons_of_file hlookup]

/-- An empty name at the end of a route stays in the folder where the route ends. -/
theorem WellFormed.makeRoute_append_empty (ht : t.WellFormed)
    (hhere : t.lookup here = some .folder) (names : List Text) :
    t.makeRoute here (names ++ [[]]) = t.makeRoute here names := by
  have hend := (ht.makeRoute hhere names).2
  rw [makeRoute_append]
  cases hmade : t.makeRoute here names with
  | mk made place =>
    rw [hmade] at hend
    cases place with
    | none => rfl
    | some there => exact @makeRoute_cons_of_folder made there [] (hend there rfl) []

theorem makeRoute_of_walk? (hwalk : t.walk? here names = some there)
    (hthere : t.lookup there = some .folder) : t.makeRoute here names = (t, some there) := by
  induction names generalizing here with
  | nil =>
    obtain rfl : here = there := Option.some.inj hwalk
    rfl
  | cons name names ih =>
    rw [walk?] at hwalk
    split at hwalk
    · have hnext : t.lookup (follow here name) = some .folder := by
        cases names with
        | nil =>
          obtain rfl : follow here name = there := Option.some.inj hwalk
          exact hthere
        | cons other names =>
          by_contra hnot
          rw [walk?, if_neg hnot] at hwalk
          cases hwalk
      rw [makeRoute_cons_of_folder hnext, ih hwalk]
    · cases hwalk

/-- Where a file is in the way, nothing has been made before it is met: what is above the file
exists, and what is not there has no file below it. -/
theorem WellFormed.makeRoute_of_blocked (ht : t.WellFormed)
    (hnames : ∀ name ∈ names, IsName name) (hhere : t.lookup here = some .folder) {q : Place}
    {content : Bytes} (hq : q <+: here ++ names) (hfile : t.lookup q = some (.file content)) :
    t.makeRoute here names = (t, none) := by
  induction names generalizing here with
  | nil =>
    rw [List.append_nil] at hq
    rw [ht.folder_of_prefix hhere hq] at hfile
    cases hfile
  | cons name names ih =>
    rw [List.forall_mem_cons] at hnames
    have hfollow := follow_of_isName hnames.1 here
    have hnext : here ++ name :: names = (here ++ [name]) ++ names := by simp
    rw [hnext] at hq
    cases hlookup : t.lookup (follow here name) with
    | some e =>
      cases e with
      | file other => exact makeRoute_cons_of_file hlookup names
      | folder =>
        rw [makeRoute_cons_of_folder hlookup]
        rw [hfollow] at hlookup ⊢
        exact ih hnames.2 hlookup hq
    | none =>
      rw [hfollow] at hlookup
      rcases List.prefix_or_prefix_of_prefix hq (List.prefix_append (here ++ [name]) names) with
        habove | hbelow
      · by_cases heq : q = here ++ [name]
        · rw [heq, hlookup] at hfile
          cases hfile
        · have hfolder := ht.folder_of_prefix hhere (isAbove_concat_iff.mp ⟨habove, heq⟩)
          rw [hfolder] at hfile
          cases hfile
      · by_cases heq : here ++ [name] = q
        · rw [← heq, hlookup] at hfile
          cases hfile
        · rw [ht.nothing_below (by rw [hlookup]; simp) ⟨hbelow, heq⟩] at hfile
          cases hfile

/-- Where no file is in the way, the folders of the route are made and nothing else changes. -/
theorem WellFormed.makeRoute_of_free (ht : t.WellFormed)
    (hnames : ∀ name ∈ names, IsName name) (hhere : t.lookup here = some .folder)
    (hfree : ∀ q, q <+: here ++ names → ∀ content, t.lookup q ≠ some (.file content)) :
    ∃ t', t.makeRoute here names = (t', some (here ++ names)) ∧
      (∀ q, q <+: here ++ names → t'.lookup q = some .folder) ∧
      ∀ q, ¬ q <+: here ++ names → t'.lookup q = t.lookup q := by
  induction names generalizing t here with
  | nil =>
    rw [List.append_nil]
    exact ⟨t, rfl, fun q hq => ht.folder_of_prefix hhere hq, fun _ _ => rfl⟩
  | cons name names ih =>
    rw [List.forall_mem_cons] at hnames
    have hfollow := follow_of_isName hnames.1 here
    have hnext : here ++ name :: names = (here ++ [name]) ++ names := by simp
    rw [hnext] at hfree ⊢
    cases hlookup : t.lookup (follow here name) with
    | some e =>
      cases e with
      | file content =>
        rw [hfollow] at hlookup
        exact absurd hlookup (hfree _ (List.prefix_append ..) content)
      | folder =>
        rw [makeRoute_cons_of_folder hlookup]
        rw [hfollow] at hlookup ⊢
        exact ih ht hnames.2 hlookup hfree
    | none =>
      rw [makeRoute_cons_of_none hlookup]
      rw [hfollow] at hlookup ⊢
      have hmade := lookup_set_self (p := here ++ [name]) (by simp) t .folder
      have hstill : ∀ q, q <+: (here ++ [name]) ++ names → ∀ content,
          (t.set (here ++ [name]) .folder).lookup q ≠ some (.file content) := by
        intro q hq content
        by_cases heq : q = here ++ [name]
        · rw [heq, hmade]
          simp
        · rw [lookup_set_of_ne heq]
          exact hfree q hq content
      obtain ⟨t', hrun, habove, helse⟩ :=
        ih (ht.set hhere fun _ => rfl) hnames.2 hmade hstill
      refine ⟨t', hrun, habove, ?_⟩
      intro q hq
      rw [helse q hq, lookup_set_of_ne]
      rintro rfl
      exact hq (List.prefix_append ..)

end

/-! ## Files behind a path that leads to a folder -/

section
variable {t : FileTree} {path part : Text} {content : Bytes} {place : Place}

/-- The names that an extended path has in common with the path lead to the same folder. -/
theorem Leads.route_extendPath (h : t.Leads path place) (hpart : part.head? ≠ some '/') :
    ∃ names, route (extendPath path part) = names ++ route part ∧ isStorable names ∧
      t.walk? [] names = some place := by
  obtain ⟨hstorable, hwalk, hfolder⟩ := h
  obtain ⟨names, hroute, hnames | hnames⟩ := FileTree.route_extendPath path hpart <;>
    rw [hnames] at hstorable hwalk
  · exact ⟨names, hroute, hstorable, hwalk⟩
  · rw [isStorable, List.all_append, Bool.and_eq_true] at hstorable
    rw [walk?_append] at hwalk
    obtain ⟨there, hthere, hstay⟩ := Option.bind_eq_some_iff.mp hwalk
    refine ⟨names, hroute, hstorable.1, ?_⟩
    rw [walk?] at hstay
    split at hstay
    · exact hthere.trans hstay
    · cases hstay

theorem Leads.mono {t' : FileTree} (h : t.Leads path place)
    (hfolders : ∀ p, t.lookup p = some .folder → t'.lookup p = some .folder) :
    t'.Leads path place :=
  ⟨h.storable, walk?_mono hfolders h.walk, hfolders place h.folder⟩

theorem read?_extendPath (ht : t.WellFormed) (hpath : t.Leads path place)
    (hpart : part.head? ≠ some '/') (hnames : ∀ name ∈ route part, IsName name) :
    t.read? (extendPath path part) = some content ↔
      t.lookup (place ++ route part) = some (.file content) := by
  obtain ⟨names, hroute, -, hwalk⟩ := hpath.route_extendPath hpart
  have hread : t.walk? [] (route (extendPath path part)) = t.walk? place (route part) := by
    rw [hroute, walk?_append, hwalk, Option.bind_some]
  unfold read?
  rw [hread]
  constructor
  · intro h
    obtain ⟨there, hthere, hfile⟩ := Option.bind_eq_some_iff.mp h
    rw [eq_of_walk? hnames hthere] at hfile
    split at hfile
    · next found hlookup => rw [hlookup, Option.some.inj hfile]
    · cases hfile
  · intro h
    rw [ht.walk?_of_lookup hnames h]
    simp [h]

/-- The folders that a file behind a path needs are made from the folder that the path leads to. -/
theorem write_extendPath (ht : t.WellFormed) (hpath : t.Leads path place)
    (hpart : part.head? ≠ some '/') (hnames : ∀ name ∈ route part, IsName name) :
    ∃ above name, route part = above ++ [name] ∧ isStorable (place ++ route part) ∧
      (∀ made, t.makeRoute place above = (made, none) →
        t.write (extendPath path part) content = (made, false)) ∧
      ∀ made folder, t.makeRoute place above = (made, some folder) →
        t.write (extendPath path part) content = made.writeAt (folder ++ [name]) content := by
  obtain ⟨names, hroute, hstorable, hwalk⟩ := hpath.route_extendPath hpart
  obtain ⟨above, name, hlast⟩ : ∃ above name, route part = above ++ [name] :=
    ⟨_, _, (List.dropLast_append_getLast (Text.splitBy_ne_nil _ part)).symm⟩
  obtain ⟨before, hbefore, hparent⟩ := route_parentAndName (extendPath path part)
  rw [hroute, hlast, ← List.append_assoc] at hbefore
  obtain ⟨rfl, hname⟩ := List.append_singleton_inj.mp hbefore
  have hpartStorable : isStorable (route part) := by
    rw [isStorable, List.all_eq_true]
    intro other hother
    simpa using (hnames other hother).noNull
  have hfolders : t.makeFolders (parentAndName (extendPath path part)).1 =
      t.makeRoute place above := by
    have hall : isStorable (names ++ above ++ [[]]) := by
      rw [hlast] at hpartStorable
      simp only [isStorable, List.all_append, Bool.and_eq_true] at hstorable hpartStorable ⊢
      exact ⟨⟨hstorable, hpartStorable.1⟩, rfl⟩
    unfold makeFolders
    dsimp only
    rw [hparent, if_pos hall, ht.makeRoute_append_empty (lookup_nil t), makeRoute_append,
      makeRoute_of_walk? hwalk hpath.folder]
  refine ⟨above, name, hlast, ?_, ?_, ?_⟩
  · rw [isStorable, List.all_append, Bool.and_eq_true]
    exact ⟨isStorable_of_walk? rfl hstorable hwalk, hpartStorable⟩
  · intro made hmade
    rw [hmade] at hfolders
    unfold write
    dsimp only
    rw [hfolders]
  · intro made folder hmade
    rw [hmade] at hfolders
    unfold write
    dsimp only
    rw [hfolders, hname]

theorem write_of_blocked (ht : t.WellFormed) (hpath : t.Leads path place)
    (hpart : part.head? ≠ some '/') (hnames : ∀ name ∈ route part, IsName name)
    (hblocked : t.Blocked (place ++ route part)) :
    t.write (extendPath path part) content = (t, false) := by
  obtain ⟨above, name, hlast, -, hstopped, hdone⟩ :=
    @write_extendPath t path part content place ht hpath hpart hnames
  rw [hlast, List.forall_mem_append] at hnames
  rw [hlast, ← List.append_assoc] at hblocked
  rcases hblocked with ⟨q, hq, other, hfile⟩ | hfolder
  · exact hstopped t
      (ht.makeRoute_of_blocked hnames.1 hpath.folder (isAbove_concat_iff.mp hq) hfile)
  · have habove := ht _ _ _ hfolder
    rw [hdone t _ (makeRoute_of_walk? (ht.walk?_of_lookup hnames.1 habove) habove)]
    exact if_pos (.inl hfolder)

theorem write_of_free (ht : t.WellFormed) (hpath : t.Leads path place)
    (hpart : part.head? ≠ some '/') (hnames : ∀ name ∈ route part, IsName name)
    (hfree : ¬ t.Blocked (place ++ route part)) :
    ∃ t', t.write (extendPath path part) content = (t', true) ∧
      Written t (place ++ route part) content t' := by
  obtain ⟨above, name, hlast, hstorable, -, hdone⟩ := write_extendPath ht hpath hpart hnames
  rw [hlast, List.forall_mem_append] at hnames
  rw [hlast, ← List.append_assoc] at hfree hstorable ⊢
  have hway : ∀ q, q <+: place ++ above → ∀ other, t.lookup q ≠ some (.file other) :=
    fun q hq other hfile => hfree (.inl ⟨q, isAbove_concat_iff.mpr hq, other, hfile⟩)
  obtain ⟨made, hmade, habove, helse⟩ := ht.makeRoute_of_free hnames.1 hpath.folder hway
  have hdown : ¬ place ++ above ++ [name] <+: place ++ above := by
    intro h
    have hlength := h.length_le
    rw [List.length_append, List.length_singleton] at hlength
    omega
  have hnot : ¬ (made.lookup (place ++ above ++ [name]) = some .folder ∨
      (!isStorable (place ++ above ++ [name])) = true) := by
    rw [helse _ hdown, hstorable]
    rintro (hfolder | hnull)
    · exact hfree (.inr hfolder)
    · cases hnull
  refine ⟨made.set (place ++ above ++ [name]) (.file content), ?_, ?_, ?_, ?_⟩
  · rw [hdone made _ hmade]
    exact if_neg hnot
  · exact lookup_set_self (by simp) made _
  · intro q hq
    rw [lookup_set_of_ne hq.2, habove q (isAbove_concat_iff.mp hq)]
  · intro q hq
    have hne : q ≠ place ++ above ++ [name] := by
      rintro rfl
      exact hq List.prefix_rfl
    rw [lookup_set_of_ne hne, helse]
    exact fun h => hq (h.trans (List.prefix_append ..))

end
end TupleRecord.FileTree
