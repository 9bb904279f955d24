import TupleRecord.Proofs.FileTree.Route
import TupleRecord.Proofs.Name.Word
import TupleRecord.Proofs.RecordClass.Acceptance

/-!
The paths of generated units. The names of a path are the segments of the package and the name of
the file. All of them are made of identifiers, and only the last has a dot, so the path and the
qualified name of a unit determine each other and no unit is stored on the way to another.
-/
namespace TupleRecord

open FileTree

namespace FileTree

theorem isName_of_isUsable {name : Text} (h : Name.isUsable name) : IsName name := by
  have hword := Name.all_isWordChar_of_isUsable h
  have hdot : '.' ∉ name := Text.notMem_of_all hword (by decide)
  refine ⟨?_, ?_, ?_, Text.notMem_of_all hword (by decide), Text.notMem_of_all hword (by decide)⟩
  · rintro rfl
    cases h
  · rintro rfl
    exact hdot (by decide)
  · rintro rfl
    exact hdot (by decide)

theorem route_foldl_extendPath {names : List Text} (hnames : ∀ name ∈ names, IsName name)
    {path : Text} (hne : path ≠ []) (hlast : path.getLast? ≠ some '/') :
    route (names.foldl extendPath path) = route path ++ names := by
  induction names generalizing path with
  | nil => simp
  | cons name names ih =>
    rw [List.forall_mem_cons] at hnames
    have hname := hnames.1
    have hhead : name.head? ≠ some '/' := fun h => hname.noSlash (List.mem_of_mem_head? h)
    have hend : name.getLast? ≠ some '/' := fun h => hname.noSlash (List.mem_of_getLast? h)
    have hnext : extendPath path name = path ++ '/' :: name := by
      rw [extendPath, if_neg hhead, if_neg (not_or.mpr ⟨hne, hlast⟩), List.append_assoc]
      rfl
    have hslash : (path ++ '/' :: name).getLast? = name.getLast? := by
      rw [List.getLast?_append_of_ne_nil _ (by simp), ← List.singleton_append,
        List.getLast?_append_of_ne_nil _ hname.nonempty]
    rw [List.foldl_cons, hnext, ih hnames.2 (by simp) (by rw [hslash]; exact hend),
      route_append_slash, route_of_noSlash hname.noSlash, List.append_assoc,
      List.singleton_append]

/-- A path that is put together from names has these names. -/
theorem route_foldl_extendPath_nil {names : List Text} (hnames : ∀ name ∈ names, IsName name)
    (hne : names ≠ []) : route (names.foldl extendPath []) = names := by
  cases names with
  | nil => exact absurd rfl hne
  | cons name names =>
    rw [List.forall_mem_cons] at hnames
    have hname := hnames.1
    have hfirst : extendPath [] name = name := by
      unfold extendPath
      simp
    have hend : name.getLast? ≠ some '/' := fun h => hname.noSlash (List.mem_of_getLast? h)
    rw [List.foldl_cons, hfirst, route_foldl_extendPath hnames.2 hname.nonempty hend,
      route_of_noSlash hname.noSlash, List.singleton_append]

theorem relative_of_route {path : Text} (h : ∀ name ∈ route path, IsName name) :
    path.head? ≠ some '/' := by
  cases path with
  | nil => simp
  | cons c path =>
    intro hc
    obtain rfl : c = '/' := by simpa using hc
    exact (h [] List.mem_cons_self).nonempty rfl

end FileTree

namespace CompilationUnit

/-- Holds of the units that templates have. -/
def Generated (u : CompilationUnit) : Prop :=
  ∃ (s : Settings) (template : Template), generate s template = .ok u

/-- The segments of the package, of which an empty one has none. -/
def packageNames (u : CompilationUnit) : List Text :=
  if u.package = [] then [] else Text.split '.' u.package

/-- A relative path that is made of the segments of the package and the file, all of them names. -/
structure Placed (u : CompilationUnit) : Prop where
  relative : u.path.head? ≠ some '/'
  route : route u.path = u.packageNames ++ [u.className ++ ".java"]
  named : ∀ name ∈ FileTree.route u.path, IsName name

/-- Where the file of a unit is that is stored below a root. -/
def place (u : CompilationUnit) (root : Place) : Place := root ++ FileTree.route u.path

theorem noDot_packageNames (u : CompilationUnit) : ∀ name ∈ u.packageNames, '.' ∉ name := by
  intro name hname
  unfold packageNames at hname
  split at hname
  · cases hname
  · exact Text.notMem_of_mem_split hname

variable {u v : CompilationUnit}

theorem Generated.usable (h : u.Generated) :
    (∀ name ∈ u.packageNames, Name.isUsable name) ∧ Name.isUsable u.className := by
  obtain ⟨s, template, hu⟩ := h
  obtain ⟨haccepted, rfl⟩ := generate_eq_ok_iff.mp hu
  refine ⟨?_, haccepted.className⟩
  intro name hname
  unfold packageNames at hname
  split at hname
  · cases hname
  · next hne =>
    have hqualified := haccepted.valid.package.resolve_left hne
    exact List.all_eq_true.mp hqualified name hname

theorem Generated.isName (h : u.Generated) :
    ∀ name ∈ u.packageNames ++ [u.fileName], IsName name := by
  obtain ⟨hpackage, hclass⟩ := h.usable
  rw [List.forall_mem_append, List.forall_mem_singleton]
  refine ⟨fun name hname => isName_of_isUsable (hpackage name hname), ?_⟩
  have hname := isName_of_isUsable hclass
  have hlong {short : Text} (hshort : short.length < 5) : u.fileName ≠ short := by
    rintro rfl
    rw [fileName, List.length_append] at hshort
    have hending : (".java" : Text).length = 5 := rfl
    omega
  refine ⟨hlong (by decide), hlong (by decide), hlong (by decide), ?_, ?_⟩
  · simp [fileName, hname.noSlash]
  · simp [fileName, hname.noNull]

theorem Generated.path_eq (h : u.Generated) :
    u.path = (u.packageNames ++ [u.fileName]).foldl extendPath [] := by
  have hsegments : (Text.split '.' u.package).filter (· ≠ []) = u.packageNames := by
    unfold packageNames
    split
    · next hnone =>
      rw [hnone]
      rfl
    · next hne =>
      rw [List.filter_eq_self]
      intro name hname
      have hmem : name ∈ u.packageNames := by
        rw [packageNames, if_neg hne]
        exact hname
      simpa using (h.isName name (List.mem_append_left _ hmem)).nonempty
  rw [path, hsegments, List.foldl_append]
  rfl

theorem Generated.placed (h : u.Generated) : u.Placed := by
  have hroute : FileTree.route u.path = u.packageNames ++ [u.fileName] := by
    rw [h.path_eq]
    exact route_foldl_extendPath_nil h.isName (by simp)
  have hnamed : ∀ name ∈ FileTree.route u.path, IsName name := by
    rw [hroute]
    exact h.isName
  exact ⟨relative_of_route hnamed, hroute, hnamed⟩

theorem Generated.split_qualifiedName (h : u.Generated) :
    Text.split '.' u.qualifiedName = u.packageNames ++ [u.className] := by
  have hdot : '.' ∉ u.className :=
    Text.notMem_of_all (Name.all_isWordChar_of_isUsable h.usable.2) (by decide)
  have hclass : Text.split '.' u.className = [u.className] := Text.split_of_notMem hdot
  unfold qualifiedName qualify packageNames
  by_cases hnone : u.package = []
  · rw [if_pos hnone, if_pos hnone, hclass]
    rfl
  · rw [if_neg hnone, if_neg hnone, List.append_assoc, ← hclass]
    exact Text.split_append_cons '.' u.package u.className

theorem Generated.route_inj (hu : u.Generated) (hv : v.Generated)
    (h : FileTree.route u.path = FileTree.route v.path) : u.path = v.path := by
  rw [hu.placed.route, hv.placed.route] at h
  rw [hu.path_eq, hv.path_eq, fileName, fileName, h]

/-- The path of a unit and its qualified name have the same parts. -/
theorem Generated.path_eq_iff (hu : u.Generated) (hv : v.Generated) :
    u.path = v.path ↔ u.qualifiedName = v.qualifiedName := by
  have hpath : u.path = v.path ↔ u.packageNames = v.packageNames ∧ u.className = v.className := by
    constructor
    · intro h
      have hroute := congrArg FileTree.route h
      rw [hu.placed.route, hv.placed.route, List.append_singleton_inj,
        List.append_cancel_right_eq] at hroute
      exact hroute
    · rintro ⟨hpackage, hclass⟩
      apply hu.route_inj hv
      rw [hu.placed.route, hv.placed.route, hpackage, hclass]
  have hname : u.qualifiedName = v.qualifiedName ↔
      u.packageNames = v.packageNames ∧ u.className = v.className := by
    constructor
    · intro h
      have hsplit := congrArg (Text.split '.') h
      rw [hu.split_qualifiedName, hv.split_qualifiedName] at hsplit
      exact List.append_singleton_inj.mp hsplit
    · rintro ⟨hpackage, hclass⟩
      apply Text.split_injective '.'
      rw [hu.split_qualifiedName, hv.split_qualifiedName, hpackage, hclass]
  rw [hpath, hname]

/-- A file has a dot in its name, and no folder of a package has one. -/
theorem Generated.not_isAbove (hu : u.Generated) (hv : v.Generated) :
    ¬ IsAbove (FileTree.route u.path) (FileTree.route v.path) := by
  rw [hu.placed.route, hv.placed.route, isAbove_concat_iff]
  intro habove
  have hfile : u.className ++ ".java" ∈ v.packageNames := habove.subset (by simp)
  exact v.noDot_packageNames _ hfile (by simp)

end CompilationUnit
end TupleRecord
