import HostLink.Proofs.Path.Absolute
import HostLink.Proofs.Relocation.Failure

namespace HostLink

/-!
# What relocations leave alone

A relocation writes search paths, libraries, tools and the record of places.  The optional
libraries and the version of CVODE are none of these, and of the libraries only those of Boost
are ever dropped.  What it adds to the search paths lies below the new place, so from an
absolute place it brings no relative path in.

`Profile.Framed` collects these facts as one relation between the profiles before and after,
which any number of relocations keeps up.
-/

namespace Path

/-- The relative ones among paths. -/
def relativeOnes (paths : List Path) : List Path :=
  paths.filter (fun p => !p.isAbsolute)

theorem relativeOnes_append (paths others : List Path) :
    relativeOnes (paths ++ others) = relativeOnes paths ++ relativeOnes others :=
  List.filter_append paths others

theorem relativeOnes_eq_nil {paths : List Path} (rooted : ∀ p ∈ paths, p.isAbsolute = true) :
    relativeOnes paths = [] := by
  apply List.filter_eq_nil_iff.mpr
  intro p listed relative
  rw [rooted p listed] at relative
  cases relative

theorem relativeOnes_filter_sublist (paths : List Path) (keep : Path → Bool) :
    (relativeOnes (paths.filter keep)).Sublist (relativeOnes paths) :=
  List.Sublist.filter _ List.filter_sublist

end Path

namespace Relocatable

/-- A library that a relocation never drops. -/
def isSpared (name : String) : Bool :=
  !Text.startsWith "boost_" name

/-- All that a relocation writes when it succeeds. -/
theorem eq_of_succeeds {t : FileTree} {l : Relocatable} {base : Path} {p p' : Profile}
    (succeeds : (l.relocate t base).Succeeds p () p') :
    ∃ libraries tools, p' = { p with
      relocations := p.relocations.insert l.key base
      includePaths :=
        p.includePaths.filter (l.keeps .headers (p.relocations.find? l.key)) ++
          l.added base .headers
      libPaths :=
        p.libPaths.filter (l.keeps .libraries (p.relocations.find? l.key)) ++
          l.added base .libraries
      libraries := libraries
      tools := tools } := by
  rcases state_relocate (l := l) p (present_of_succeeds succeeds) with ⟨libraries, tools, left⟩
  rw [succeeds.state, cleared_eq] at left
  exact ⟨libraries, tools, left⟩

theorem mem_addLibrariesOnce {p : Profile} {name : String} (listed : name ∈ p.libraries)
    (marker : String) (names : List String) :
    name ∈ (p.addLibrariesOnce marker names).libraries := by
  unfold Profile.addLibrariesOnce
  split
  · exact listed
  · exact List.mem_append_left _ listed

theorem libraries_recordPlace (p : Profile) (key : String) (base : Path) :
    (p.recordPlace key base).libraries = p.libraries := by
  unfold Profile.recordPlace
  cases p.relocations.find? key <;> rfl

/-- Replacing directories touches no library. -/
theorem libraries_replaceDirectories (l : Relocatable) (base : Path) (p : Profile) :
    (replaceDirectories l base p).libraries = p.libraries := by
  simp only [replaceDirectories, Profile.addLibPath, Profile.addInclude, Profile.dropLibPaths,
    Profile.dropIncludes, libraries_recordPlace]

theorem libraries_replaceParMetis (base : Path) (p : Profile) :
    (replaceParMetis base p).libraries = p.libraries := by
  simp only [replaceParMetis, Profile.addLibPath, Profile.addInclude, Profile.dropLibPaths,
    Profile.dropIncludes, libraries_recordPlace]

theorem libraries_replaceXsd (base : Path) (p : Profile) :
    (replaceXsd base p).libraries = p.libraries := by
  simp only [replaceXsd, Profile.addInclude, Profile.dropIncludes, libraries_recordPlace]

/-- Only libraries of Boost are dropped, and only by a relocation of Boost. -/
theorem mem_libraries_of_succeeds {t : FileTree} {l : Relocatable} {base : Path}
    {p p' : Profile} (succeeds : (l.relocate t base).Succeeds p () p') {name : String}
    (listed : name ∈ p.libraries) (spared : isSpared name = true) : name ∈ p'.libraries := by
  have present := present_of_succeeds succeeds
  have accepted : ∀ component, t.require base component = .ok () :=
    fun _ => FileTree.require_eq_ok_iff.mpr present
  rw [← succeeds.state]
  cases l with
  | boost version =>
      have kept : name ∈ namesWithoutStart "boost_" p.libraries :=
        List.mem_filter.mpr ⟨listed, spared⟩
      rw [relocate, (relocateBoost_of_present version p present).2]
      cases boostSuffix t version base with
      | error e => exact kept
      | ok suffix => exact List.mem_append_left _ kept
  | hdf5 =>
      simp only [relocate, accepted]
      refine mem_addLibrariesOnce ?_ "hdf5" ["hdf5", "z"]
      rw [libraries_replaceDirectories]
      exact listed
  | xerces =>
      simp only [relocate, accepted]
      refine mem_addLibrariesOnce ?_ "xerces-c" ["xerces-c"]
      rw [libraries_replaceDirectories]
      exact listed
  | parmetis =>
      simp only [relocate, accepted]
      refine mem_addLibrariesOnce ?_ "parmetis" ["parmetis", "metis"]
      rw [libraries_replaceParMetis]
      exact listed
  | xsd =>
      simp only [relocate, accepted]
      change name ∈ (replaceXsd base p).libraries
      rw [libraries_replaceXsd]
      exact listed

/-- Below an absolute place there are absolute paths only. -/
theorem relativeOnes_added {base : Path} (rooted : base.isAbsolute = true) (l : Relocatable)
    (list : SearchList) : Path.relativeOnes (l.added base list) = [] :=
  Path.relativeOnes_eq_nil (fun _ new =>
    Path.isAbsolute_of_isUnder rooted (isUnder_of_mem_added new))

end Relocatable

/-- What holds between the profiles before and after relocations to absolute places. -/
structure Profile.Framed (p p' : Profile) : Prop where
  features : p'.features = p.features
  cvodeVersion : p'.cvodeVersion = p.cvodeVersion
  libraries : ∀ name ∈ p.libraries, Relocatable.isSpared name = true → name ∈ p'.libraries
  relative : (Path.relativeOnes p'.includePaths).Sublist (Path.relativeOnes p.includePaths)

namespace Profile.Framed

theorem refl (p : Profile) : p.Framed p :=
  ⟨rfl, rfl, fun _ listed _ => listed, List.Sublist.refl _⟩

theorem trans {p q r : Profile} (first : p.Framed q) (second : q.Framed r) : p.Framed r where
  features := second.features.trans first.features
  cvodeVersion := second.cvodeVersion.trans first.cvodeVersion
  libraries name listed spared := second.libraries name (first.libraries name listed spared) spared
  relative := second.relative.trans first.relative

theorem of_succeeds {t : FileTree} {l : Relocatable} {base : Path} {p p' : Profile}
    (rooted : base.isAbsolute = true) (succeeds : (l.relocate t base).Succeeds p () p') :
    p.Framed p' := by
  rcases Relocatable.eq_of_succeeds succeeds with ⟨libraries, tools, same⟩
  constructor
  · rw [same]
  · rw [same]
  · exact fun name listed spared =>
      Relocatable.mem_libraries_of_succeeds succeeds listed spared
  · rw [same, Path.relativeOnes_append, Relocatable.relativeOnes_added rooted, List.append_nil]
    exact Path.relativeOnes_filter_sublist _ _

end Profile.Framed
end HostLink
