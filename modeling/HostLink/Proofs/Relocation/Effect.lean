import HostLink.Proofs.Action
import HostLink.Proofs.FileTree
import HostLink.Proofs.Path
import HostLink.Relocation

namespace HostLink

/-!
# What a relocation does to the search paths

The five relocations differ in the directories they add and in the order of their steps.  On
the two lists of search paths they all do the same: some entries are kept, in their order,
and new ones go to the end.  Which entries are kept depends on the library, on the list and
on the place recorded for the library before.

This holds for a failing relocation as well.  It changes nothing if the place is not there,
and what it did up to its failure otherwise.
-/

/-- The two lists of search paths. -/
inductive SearchList where
  | headers
  | libraries
  deriving DecidableEq

namespace Profile

/-- The search paths of a machine in one of the lists. -/
def paths (p : Profile) : SearchList → List Path
  | .headers => p.includePaths
  | .libraries => p.libPaths

theorem paths_recordPlace (p : Profile) (key : String) (base : Path) (list : SearchList) :
    (p.recordPlace key base).paths list =
      (p.paths list).filter (fun path => !(p.relocations.find? key).any (·.isUnder path)) := by
  unfold recordPlace
  cases p.relocations.find? key with
  | none =>
      have unfiltered := (List.filter_eq_self (p := fun _ => true)).mpr
        (fun path (_ : path ∈ p.paths list) => rfl)
      simp only [Option.any_none, Bool.not_false, unfiltered]
      cases list <;> rfl
  | some previous => cases list <;> rfl

@[simp]
theorem relocations_recordPlace (p : Profile) (key : String) (base : Path) :
    (p.recordPlace key base).relocations = p.relocations.insert key base := by
  unfold recordPlace
  cases p.relocations.find? key <;> rfl

/-- Libraries are no search paths and no places. -/
theorem addLibrariesOnce_eq (p : Profile) (marker : String) (names : List String) :
    ∃ libraries, p.addLibrariesOnce marker names = { p with libraries := libraries } := by
  unfold addLibrariesOnce
  by_cases known : marker ∈ p.libraries
  · exact ⟨p.libraries, by rw [if_pos known]⟩
  · exact ⟨p.libraries ++ names, by rw [if_neg known]; rfl⟩

end Profile

namespace Relocatable

/-- Whether paths that mention the library are dropped from a list.  XSD has no library, and
its relocation looks for mentions among the headers only. -/
def dropsMentions : Relocatable → SearchList → Bool
  | .xsd, .libraries => false
  | _, _ => true

theorem dropsMentions_headers (l : Relocatable) : l.dropsMentions .headers = true := by
  cases l <;> rfl

/-- The paths of HDF5 and Xerces are recognised by these names, whichever list they are in. -/
theorem mention_hdf5 : Relocatable.hdf5.mention = "hdf5" :=
  rfl

theorem mention_xerces : Relocatable.xerces.mention = "xerces" :=
  rfl

/-- Whether a relocation leaves a path in a list, when the library had this place before. -/
def keeps (l : Relocatable) (list : SearchList) (previous : Option Path) (path : Path) : Bool :=
  !(l.dropsMentions list && Text.mentions l.mention path.text) &&
    !previous.any (fun place => place.isUnder path)

/-- The directories that a relocation adds to a list.  Boost with a version that cannot be
read adds none. -/
def added (l : Relocatable) (base : Path) (list : SearchList) : List Path :=
  match l, list with
  | .boost version, .headers =>
      ((Boost.hasFlatHeaders version).toOption.map (Boost.headerPath base version)).toList
  | .boost version, .libraries =>
      ((Boost.hasFlatHeaders version).toOption.map (fun _ => base.child "lib")).toList
  | .hdf5, .headers => [base.child "include"]
  | .hdf5, .libraries => [base.child "lib"]
  | .xerces, .headers => [base.child "include"]
  | .xerces, .libraries => [base.child "lib"]
  | .parmetis, _ => [base]
  | .xsd, .headers => [base.child "libxsd"]
  | .xsd, .libraries => []

theorem isUnder_headerPath (base : Path) (version : String) (flat : Bool) :
    base.isUnder (Boost.headerPath base version flat) = true := by
  unfold Boost.headerPath
  have outer : base.isUnder (base.child "include") = true := Path.isUnder_child base rfl
  cases flat with
  | true => exact outer
  | false =>
      have relative :
          (⟨"boost-" ++ Text.replaceChar '.' '_' version⟩ : Path).isAbsolute = false := by
        simp [Path.isAbsolute]
      have inner := Path.isUnder_child (base.child "include") relative
      exact Path.isUnder_trans outer inner

/-- Everything that is added lies below the new place. -/
theorem isUnder_of_mem_added {l : Relocatable} {base path : Path} {list : SearchList}
    (new : path ∈ l.added base list) : base.isUnder path = true := by
  have headers : base.isUnder (base.child "include") = true := Path.isUnder_child base rfl
  have libraries : base.isUnder (base.child "lib") = true := Path.isUnder_child base rfl
  have schemas : base.isUnder (base.child "libxsd") = true := Path.isUnder_child base rfl
  cases l with
  | boost version =>
      cases list with
      | headers =>
          simp only [added, Option.mem_toList, Option.map_eq_some_iff] at new
          rcases new with ⟨flat, _, same⟩
          rw [← same]
          exact isUnder_headerPath base version flat
      | libraries =>
          simp only [added, Option.mem_toList, Option.map_eq_some_iff] at new
          rcases new with ⟨_, _, same⟩
          rw [← same]
          exact libraries
  | parmetis =>
      rw [List.mem_singleton.mp new]
      exact Path.isUnder_self base
  | xsd =>
      cases list with
      | headers =>
          rw [List.mem_singleton.mp new]
          exact schemas
      | libraries => cases new
  | hdf5 | xerces =>
      cases list with
      | headers =>
          rw [List.mem_singleton.mp new]
          exact headers
      | libraries =>
          rw [List.mem_singleton.mp new]
          exact libraries

/-! ## The state after a relocation -/

/-- Without the place, nothing is done. -/
theorem relocate_of_absent {t : FileTree} {l : Relocatable} {base : Path} (p : Profile)
    (absent : t.present base = false) :
    l.relocate t base p = ⟨.error (.pathNotFound l.component base), p, []⟩ := by
  have refused := FileTree.require_of_absent absent
  cases l <;> simp only [relocate, relocateBoost, refused] <;> rfl

/-- The profile of a relocation between dropping and adding. -/
def cleared (l : Relocatable) (base : Path) (p : Profile) : Profile :=
  let fewer := (p.recordPlace l.key base).dropIncludes l.mention
  if l.dropsMentions .libraries then fewer.dropLibPaths l.mention else fewer

theorem paths_cleared (l : Relocatable) (base : Path) (p : Profile) (list : SearchList) :
    (l.cleared base p).paths list =
      (p.paths list).filter (l.keeps list (p.relocations.find? l.key)) := by
  have recorded := Profile.paths_recordPlace p l.key base list
  unfold cleared keeps
  cases list with
  | headers =>
      simp only [dropsMentions_headers, Bool.true_and]
      rw [← List.filter_filter, ← recorded]
      cases l.dropsMentions .libraries with
      | true => rfl
      | false => rfl
  | libraries =>
      cases l.dropsMentions .libraries with
      | true =>
          simp only [if_true, Bool.true_and]
          rw [← List.filter_filter, ← recorded]
          rfl
      | false =>
          simp only [Bool.false_eq_true, if_false, Bool.false_and, Bool.not_false, Bool.true_and]
          rw [← recorded]
          rfl

theorem relocations_cleared (l : Relocatable) (base : Path) (p : Profile) :
    (l.cleared base p).relocations = p.relocations.insert l.key base := by
  unfold cleared
  cases l.dropsMentions .libraries with
  | true => exact Profile.relocations_recordPlace p l.key base
  | false => exact Profile.relocations_recordPlace p l.key base

/-- With the place there, search paths are dropped and then added, and apart from the record of
places only libraries and tools change with them. -/
theorem state_relocate {t : FileTree} {l : Relocatable} {base : Path} (p : Profile)
    (present : t.present base = true) :
    ∃ libraries tools, (l.relocate t base p).state =
      { l.cleared base p with
        includePaths := (l.cleared base p).includePaths ++ l.added base .headers
        libPaths := (l.cleared base p).libPaths ++ l.added base .libraries
        libraries := libraries
        tools := tools } := by
  have accepted : ∀ component, t.require base component = .ok () :=
    fun _ => FileTree.require_eq_ok_iff.mpr present
  cases l with
  | boost version =>
      simp only [relocate, relocateBoost, accepted]
      cases flat : Boost.hasFlatHeaders version with
      | error e =>
          simp only [added, flat, Except.toOption, Option.map_none, Option.toList_none,
            List.append_nil]
          exact ⟨_, _, rfl⟩
      | ok flatness =>
          simp only [added, flat, Except.toOption, Option.map_some, Option.toList_some]
          cases Boost.suffix t (base.child "lib") with
          | error e => exact ⟨_, _, rfl⟩
          | ok suffix => exact ⟨_, _, rfl⟩
  | hdf5 =>
      have once := Profile.addLibrariesOnce_eq (replaceDirectories .hdf5 base p) "hdf5"
        ["hdf5", "z"]
      rcases once with ⟨libraries, same⟩
      simp only [relocate, accepted]
      exact ⟨libraries, _, same⟩
  | xerces =>
      have once := Profile.addLibrariesOnce_eq (replaceDirectories .xerces base p) "xerces-c"
        ["xerces-c"]
      rcases once with ⟨libraries, same⟩
      simp only [relocate, accepted]
      exact ⟨libraries, _, same⟩
  | parmetis =>
      have once := Profile.addLibrariesOnce_eq (replaceParMetis base p) "parmetis"
        ["parmetis", "metis"]
      rcases once with ⟨libraries, same⟩
      simp only [relocate, accepted]
      exact ⟨libraries, _, same⟩
  | xsd =>
      simp only [relocate, accepted, added, List.append_nil]
      exact ⟨_, _, rfl⟩

/-- Each list of search paths keeps entries in their order, and the directories of the new
place stand at its end. -/
theorem paths_relocate {t : FileTree} {l : Relocatable} {base : Path} (p : Profile)
    (list : SearchList) (present : t.present base = true) :
    (l.relocate t base p).state.paths list =
      (p.paths list).filter (l.keeps list (p.relocations.find? l.key)) ++ l.added base list := by
  rcases state_relocate (l := l) p present with ⟨libraries, tools, left⟩
  rw [left, ← paths_cleared l base p]
  cases list <;> rfl

/-- The new place is recorded, and the places of other libraries stay recorded. -/
theorem relocations_relocate {t : FileTree} {l : Relocatable} {base : Path} (p : Profile)
    (present : t.present base = true) :
    (l.relocate t base p).state.relocations = p.relocations.insert l.key base := by
  rcases state_relocate (l := l) p present with ⟨libraries, tools, left⟩
  rw [left]
  exact relocations_cleared l base p

/-! ## After a success -/

theorem present_of_succeeds {t : FileTree} {l : Relocatable} {base : Path} {p p' : Profile}
    (succeeds : (l.relocate t base).Succeeds p () p') : t.present base = true := by
  cases present : t.present base with
  | true => rfl
  | false =>
      have failed := succeeds.result
      rw [relocate_of_absent p present] at failed
      cases failed

/-- A relocation of Boost that succeeds could read the version. -/
theorem hasFlatHeaders_of_succeeds {t : FileTree} {version : String} {base : Path}
    {p p' : Profile} (succeeds : (relocate t (.boost version) base).Succeeds p () p') :
    ∃ flat, Boost.hasFlatHeaders version = .ok flat := by
  simp only [relocate, relocateBoost, Action.succeeds_ofExcept_bind_iff,
    Action.succeeds_update_bind_iff] at succeeds
  rcases succeeds with ⟨_, _, flat, read, _⟩
  exact ⟨flat, read⟩

/-- A relocation that succeeds adds one directory to each list, except that XSD has none for
libraries. -/
theorem added_of_succeeds {t : FileTree} {l : Relocatable} {base : Path} {p p' : Profile}
    (succeeds : (l.relocate t base).Succeeds p () p') (list : SearchList)
    (kept : l ≠ .xsd ∨ list = .headers) : ∃ path, l.added base list = [path] := by
  cases l with
  | boost version =>
      rcases hasFlatHeaders_of_succeeds succeeds with ⟨flat, read⟩
      cases list with
      | headers =>
          refine ⟨Boost.headerPath base version flat, ?_⟩
          simp only [added, read, Except.toOption, Option.map_some, Option.toList_some]
      | libraries =>
          refine ⟨base.child "lib", ?_⟩
          simp only [added, read, Except.toOption, Option.map_some, Option.toList_some]
  | hdf5 => cases list <;> exact ⟨_, rfl⟩
  | xerces => cases list <;> exact ⟨_, rfl⟩
  | parmetis => exact ⟨_, rfl⟩
  | xsd =>
      rcases kept with other | headers
      · exact absurd rfl other
      · rw [headers]
        exact ⟨_, rfl⟩

end Relocatable
end HostLink
