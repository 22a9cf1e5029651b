import HostLink.Proofs.Configuration.Stages
import HostLink.Proofs.Resolution.Decision

namespace HostLink

/-!
# Which search paths are absolute

The search paths of a configuration come from many places, and nearly all of them are taken
from the project root before they are used.  A link line is *rooted* if all its search paths
are absolute.  The resolutions of PETSc and Deal.II keep a link line so, and the library paths
of the machine are made absolute where they are added.

The exception are the header directories that a machine file lists.  They stand on the link
line as they were written, so its relative search paths are exactly those of them that the
hooks have left.
-/

/-- A link line with absolute search paths only. -/
structure LinkLine.Rooted (l : LinkLine) : Prop where
  includePaths : ∀ p ∈ l.includePaths, p.isAbsolute = true
  libPaths : ∀ p ∈ l.libPaths, p.isAbsolute = true

namespace LinkLine.Rooted

theorem empty : LinkLine.empty.Rooted :=
  ⟨nofun, nofun⟩

theorem append {l m : LinkLine} (first : l.Rooted) (second : m.Rooted) : (l ++ m).Rooted where
  includePaths p listed := by
    rcases List.mem_append.mp listed with former | added
    · exact first.includePaths p former
    · exact second.includePaths p added
  libPaths p listed := by
    rcases List.mem_append.mp listed with former | added
    · exact first.libPaths p former
    · exact second.libPaths p added

end LinkLine.Rooted

/-! ## The resolutions -/

namespace Petsc

/-- Everything in an absolute installation is absolute, whatever the names of its builds. -/
theorem isAbsolute_of_mem_layouts {p : Profile} {flavour : Flavour} {release : PetscRelease}
    {base : Path} {l : Layout} (rooted : base.isAbsolute = true)
    (listed : l ∈ layouts p flavour release base) :
    l.archHeaders.isAbsolute = true ∧ l.libPath.isAbsolute = true := by
  have below : ∀ name inner : String, ((base.child name).child inner).isAbsolute = true :=
    fun name inner => Path.isAbsolute_child_of_isAbsolute
      (Path.isAbsolute_child_of_isAbsolute rooted name) inner
  cases release with
  | v2_2 =>
      rcases List.mem_map.mp listed with ⟨dir, _, same⟩
      subst same
      exact ⟨below _ _, Path.isAbsolute_child_of_isAbsolute (below _ _) _⟩
  | _ =>
      rcases List.mem_map.mp listed with ⟨arch, _, same⟩
      subst same
      exact ⟨below _ _, below _ _⟩

/-- A release is looked for below the project root only. -/
theorem isAbsolute_of_chosen? {t : FileTree} {c : Context} {requested : String}
    {release : PetscRelease} {base : Path} (rooted : c.root.isAbsolute = true)
    (chosen : chosen? t c requested = some (release, base)) : base.isAbsolute = true := by
  unfold chosen? at chosen
  rcases Option.bind_eq_some_iff.mp chosen with ⟨wanted, _, found⟩
  have installed := (Chain.firstInstalled_eq_some_iff.mp found).1
  unfold Context.installation at installed
  rcases Option.map_eq_some_iff.mp installed with ⟨path, _, same⟩
  rw [← same]
  exact Path.isAbsolute_absolute rooted path

theorem rooted_contribution {t : FileTree} {p : Profile} {flavour : Flavour}
    {release : PetscRelease} {base : Path} {found : Layout} (rooted : base.isAbsolute = true)
    (laidOut : layout t p flavour release base = .ok found) (headersOnly : Bool) :
    (contribution release base found headersOnly).Rooted := by
  rcases isAbsolute_of_mem_layouts rooted (mem_of_isChosen (layout_eq_ok_iff.mp laidOut)) with
    ⟨archHeaders, libPath⟩
  constructor
  · intro p listed
    rcases List.mem_cons.mp listed with first | second
    · rw [first]
      exact archHeaders
    · rw [List.mem_singleton.mp second]
      exact Path.isAbsolute_child_of_isAbsolute rooted "include"
  · intro p listed
    cases headersOnly with
    | true => cases listed
    | false =>
        rw [List.mem_singleton.mp listed]
        exact libPath

/-- From an absolute root PETSc brings absolute paths only. -/
theorem rooted_of_succeeds {t : FileTree} {requested : String} {flavour : Flavour}
    {headersOnly : Bool} {c c' : Context} {outcome : Option PetscRelease}
    (rooted : c.root.isAbsolute = true) (line : c.line.Rooted)
    (resolved : (resolve t requested flavour headersOnly).Succeeds c outcome c') :
    c'.line.Rooted := by
  rcases succeeds_resolve_iff.mp resolved with
    ⟨_, _, same⟩ | ⟨_, release, base, found, chosen, laidOut, _, _, _, same⟩
  · rw [same]
    exact line
  · rw [same]
    have placed := isAbsolute_of_chosen? rooted chosen
    exact line.append (rooted_contribution placed laidOut headersOnly)

end Petsc

namespace Dealii

theorem rooted_contribution {base : Path} (rooted : base.isAbsolute = true)
    (six debugging : Bool) : (contribution base six debugging).Rooted where
  includePaths p listed := by
    rcases List.mem_map.mp listed with ⟨name, _, same⟩
    rw [← same]
    exact Path.isAbsolute_child_of_isAbsolute rooted name
  libPaths p listed := by
    rw [List.mem_singleton.mp listed]
    exact Path.isAbsolute_child_of_isAbsolute rooted "lib"

/-- So does Deal.II with the PETSc below it. -/
theorem rooted_of_succeeds {t : FileTree} {b : Build} {c c' : Context} {a : Unit}
    (rooted : c.root.isAbsolute = true) (line : c.line.Rooted)
    (resolved : (resolve t b).Succeeds c a c') : c'.line.Rooted := by
  rcases succeeds_resolve_iff.mp resolved with ⟨path, version, release, d, _, _, _, inner, same⟩
  have below : d.line.Rooted := Petsc.rooted_of_succeeds rooted line inner
  rw [same]
  exact below.append (rooted_contribution (Path.isAbsolute_absolute rooted path) _ _)

end Dealii

namespace Configure

theorem rooted_of_succeeds_first {t : FileTree} {b : Build} {c c' : Context}
    {release : Option PetscRelease} (rooted : c.root.isAbsolute = true) (line : c.line.Rooted)
    (first : (firstResolution t b).Succeeds c release c') : c'.line.Rooted := by
  unfold firstResolution at first
  cases dealii : b.usingDealii with
  | true =>
      simp only [dealii, if_true, Action.succeeds_bind_iff, Action.succeeds_pure_iff] at first
      rcases first with ⟨_, c₁, done, _, same⟩
      rw [same]
      exact Dealii.rooted_of_succeeds rooted line done
  | false =>
      simp only [dealii, Bool.false_eq_true, if_false] at first
      exact Petsc.rooted_of_succeeds rooted line first

/-! ## The machine's own paths -/

/-- The library paths that a machine puts behind the resolution are made absolute. -/
theorem isAbsolute_of_mem_machineLine {b : Build} {root path : Path} {p : Profile}
    (rooted : root.isAbsolute = true) (listed : path ∈ (machineLine b root p).libPaths) :
    path.isAbsolute = true := by
  rcases List.mem_append.mp listed with intel | own
  · unfold intelLibPaths at intel
    cases compiler : b.compiler with
    | gcc =>
        rw [compiler] at intel
        cases intel
    | intel =>
        rw [compiler] at intel
        rcases Option.map_eq_some_iff.mp (Option.mem_toList.mp intel) with ⟨base, _, same⟩
        rw [← same]
        exact Path.isAbsolute_child_of_isAbsolute (Path.isAbsolute_absolute rooted base) "lib"
  · rcases List.mem_map.mp own with ⟨written, _, same⟩
    rw [← same]
    exact Path.isAbsolute_absolute rooted written

/-- The hooks of a machine file bring no relative header directory in. -/
theorem relativeOnes_of_adjustments {d : MachineDescription} {id : String}
    {source : MachineSource} {b : Build} {root : Path} {h h' : Host}
    (rooted : root.isAbsolute = true)
    (adjusted : (adjustments (d.toMachine id source) b root).Succeeds h () h') :
    (Path.relativeOnes h'.profile.includePaths).Sublist
      (Path.relativeOnes h.profile.includePaths) := by
  rcases used_of_adjustments rooted adjusted with ⟨h₁, used, behind⟩
  rcases Places.succeeds_use_iff.mp used with ⟨h₀, relocated, last⟩
  have before := (Host.Framed.of_forEach rooted relocated).profile.relative
  have same : Path.relativeOnes h₁.profile.includePaths =
      Path.relativeOnes h₀.profile.includePaths := by
    cases placed : d.places.cvode with
    | none =>
        rw [placed] at last
        rw [last]
    | some place =>
        rw [placed] at last
        rcases Places.succeeds_useCvode_iff.mp last with ⟨_, version, _, left⟩
        rcases Places.withCvode_eq root place version h₀.profile with ⟨libraries, written⟩
        have headers : (Places.cvodeHeaders root place).isAbsolute = true :=
          Path.isAbsolute_child_of_isAbsolute (Path.isAbsolute_absolute rooted place) "include"
        have added : Path.relativeOnes [Places.cvodeHeaders root place] = [] := by
          apply Path.relativeOnes_eq_nil
          intro p listed
          rw [List.mem_singleton.mp listed]
          exact headers
        rw [left, written, Path.relativeOnes_append, added, List.append_nil]
  have after := behind.profile.relative
  rw [same] at after
  exact after.trans before

def plainLaboratory : MachineDescription where
  summary := none
  places := Places.none
  versions := OrderedMap.empty
  profile := { Profile.plain with includePaths := [⟨"include"⟩], libPaths := [⟨"lib"⟩] }

/-- A header directory that a machine file lists is not taken from the project root. -/
theorem not_forall_searchPaths_absolute :
    ¬ ∀ (d : MachineDescription) (id : String) (source : MachineSource) (options : Options)
        (session : Session) (c : Configuration), options.root.isAbsolute = true →
      (configure (d.toMachine id source) options session).result = .ok c →
      (∀ p ∈ c.line.includePaths, p.isAbsolute = true) ∧
        ∀ p ∈ c.line.libPaths, p.isAbsolute = true := by
  intro absolute
  have configured : ∃ c, (configure (plainLaboratory.toMachine "lab" .builtIn) ⟨⟨"/w"⟩, true⟩
      ⟨FileTree.empty, Build.plain⟩).result = .ok c ∧ c.line.includePaths = [⟨"include"⟩] :=
    ⟨_, rfl, rfl⟩
  rcases configured with ⟨c, configured, written⟩
  have headers := (absolute plainLaboratory "lab" .builtIn ⟨⟨"/w"⟩, true⟩
    ⟨FileTree.empty, Build.plain⟩ c rfl configured).1
  rw [written] at headers
  exact absurd (headers ⟨"include"⟩ List.mem_cons_self) (by decide)

/-- Taken from an absolute root, all library paths of a configuration are absolute.  Its relative
header directories are those that the hooks left of the ones in the machine file, in their order
and as they were written there. -/
theorem searchPaths_of_configure {d : MachineDescription} {id : String} {source : MachineSource}
    {options : Options} {session : Session} {c : Configuration}
    (rooted : options.root.isAbsolute = true)
    (configured : (configure (d.toMachine id source) options session).result = .ok c) :
    (∀ p ∈ c.line.libPaths, p.isAbsolute = true) ∧
      ∃ h, (adjustments (d.toMachine id source) session.build options.root).Succeeds
          ⟨session.tree, d.profile⟩ () h ∧
        Path.relativeOnes c.line.includePaths = Path.relativeOnes h.profile.includePaths ∧
        (Path.relativeOnes c.line.includePaths).Sublist
          (Path.relativeOnes d.profile.includePaths) := by
  rcases stages_of_configure configured with ⟨h, resolved, adjusted, first, line, _⟩
  have base : resolved.line.Rooted := rooted_of_succeeds_first rooted .empty first
  have relative : Path.relativeOnes c.line.includePaths =
      Path.relativeOnes h.profile.includePaths := by
    rw [line, LinkLine.append_def, Path.relativeOnes_append,
      Path.relativeOnes_eq_nil base.includePaths, List.nil_append]
    rfl
  refine ⟨?_, h, adjusted, relative, ?_⟩
  · intro p listed
    rw [line] at listed
    rcases List.mem_append.mp listed with former | own
    · exact base.libPaths p former
    · exact isAbsolute_of_mem_machineLine rooted own
  · rw [relative]
    exact relativeOnes_of_adjustments rooted adjusted

/-- The machine file's own two paths end as one absolute and one relative path. -/
theorem searchPaths_of_configure_plainLaboratory :
    ∃ c, (configure (plainLaboratory.toMachine "lab" .builtIn) ⟨⟨"/w"⟩, true⟩
        ⟨FileTree.empty, Build.plain⟩).result = .ok c ∧
      (∀ p ∈ c.line.libPaths, p.isAbsolute = true) ∧
      (Path.relativeOnes c.line.includePaths).Sublist [⟨"include"⟩] := by
  have succeeds : ∃ c, (configure (plainLaboratory.toMachine "lab" .builtIn) ⟨⟨"/w"⟩, true⟩
      ⟨FileTree.empty, Build.plain⟩).result = .ok c := ⟨_, rfl⟩
  rcases succeeds with ⟨c, configured⟩
  rcases searchPaths_of_configure rfl configured with ⟨libPaths, _, _, _, relative⟩
  exact ⟨c, configured, libPaths, relative⟩

end Configure
end HostLink
