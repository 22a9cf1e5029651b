import HostLink.Proofs.Configuration.Run

namespace HostLink
namespace Configure

/-!
# The order of the link line

A linker wants a library before those on which it depends, so the three lists of a
configuration have a fixed order.  What comes first is the foundation of the build, which is
PETSc, or Deal.II with the PETSc below it, or nothing at all.  Everything behind it is read
off the profile that the hooks leave.

The lists are given as concatenations here.  They fix the place of every entry, and so they
say that no entry is dropped, repeated or moved.
-/

/-- What the resolution puts in front, with the release of PETSc that is reported for it. -/
inductive Foundation (b : Build) (options : Options) (h : Host) :
    Option PetscRelease → LinkLine → Prop
  /-- PETSc is left to the platform. -/
  | platform (petsc : b.usingDealii = false) (skipped : options.skipPetsc = true) :
      Foundation b options h none LinkLine.empty
  /-- The release that is chosen for the request, with its headers and libraries. -/
  | petsc {release : PetscRelease} {base : Path} {found : Petsc.Layout}
      (petsc : b.usingDealii = false) (wanted : options.skipPetsc = false)
      (chosen : Petsc.chosen? h.tree (Context.start h.profile options.root false)
        (requestedPetsc b.preferences) = some (release, base))
      (laidOut : Petsc.layout h.tree h.profile b.flavour release base = .ok found) :
      Foundation b options h (some release)
        ⟨[found.archHeaders, base.child "include"], [found.libPath], Petsc.libraries release⟩
  /-- All that Deal.II puts on an empty link line. -/
  | dealii {resolved : Context} (dealii : b.usingDealii = true)
      (done : (Dealii.resolve h.tree b).Succeeds
        (Context.start h.profile options.root options.skipPetsc) () resolved) :
      Foundation b options h none resolved.line

/-- The library directory of the Intel compilers, for a build that uses them. -/
def intelLibPaths (b : Build) (root : Path) (p : Profile) : List Path :=
  match b.compiler with
  | .gcc => []
  | .intel => (p.intel.map (fun path => (Path.absolute root path).child "lib")).toList

/-! ## The parts of a run -/

theorem foundation_of_succeeds_first {b : Build} {options : Options} {h : Host}
    {release : Option PetscRelease} {resolved : Context}
    (first : (firstResolution h.tree b).Succeeds
      (Context.start h.profile options.root options.skipPetsc) release resolved) :
    Foundation b options h release resolved.line := by
  unfold firstResolution at first
  cases dealii : b.usingDealii with
  | true =>
      simp only [dealii, if_true, Action.succeeds_bind_iff, Action.succeeds_pure_iff] at first
      rcases first with ⟨_, _, done, rfl, rfl⟩
      exact .dealii dealii done
  | false =>
      simp only [dealii, if_false, Bool.false_eq_true] at first
      rcases Petsc.succeeds_resolve_iff.mp first with
        ⟨skipped, rfl, rfl⟩ | ⟨wanted, release, base, found, chosen, laidOut, _, _, rfl, rfl⟩
      · exact .platform dealii skipped
      · have notSkipped : options.skipPetsc = false := wanted
        rw [notSkipped] at chosen
        exact .petsc dealii notSkipped chosen laidOut

/-- Looking for the Intel compilers puts their library directory on the link line and leaves
the rest of the run alone. -/
theorem line_of_succeeds_intel {s s' : Progress} {intel : Option Path}
    (found : useIntelLibraries.Succeeds s intel s') :
    (s.build.compiler = .intel → s.context.profile.intel.isSome = true) ∧
      s'.context = s.context.addLibPaths
        (intelLibPaths s.build s.context.root s.context.profile) := by
  unfold intelLibPaths
  rcases succeeds_useIntelLibraries_iff.mp found with
    ⟨gcc, _, rfl⟩ | ⟨intel, path, configured, _, _, _, rfl⟩
  · refine ⟨fun intel => ?_, ?_⟩
    · rw [gcc] at intel
      cases intel
    · rw [gcc]
      simp only [Context.addLibPaths, LinkLine.addLibPaths, List.append_nil]
  · refine ⟨fun _ => ?_, ?_⟩
    · rw [configured]
      rfl
    · rw [intel, configured]
      rfl

/-- A build with Deal.II does not ask the machine for versions of libraries. -/
theorem configure_of_dealii {m : Machine} {options : Options} {session : Session}
    (dealii : session.build.usingDealii = true)
    (hook : Option (Preferences → Path → Adjustment Unit)) :
    configure { m with onPreferences := hook } options session = configure m options session := by
  have same : ∀ s : Progress, s.build.usingDealii = true →
      steps { m with onPreferences := hook } options s = steps m options s := by
    intro s dealii
    unfold steps
    rw [Action.state_bind_apply, Action.state_bind_apply]
    simp only [dealii, if_true]
    rfl
  unfold configure Action.onPart
  rw [same _ dealii]

/-- The libraries for production builds stand in for the usual ones in such builds only, and only
where the machine has them. -/
theorem blasLapackFor_eq (p : Profile) (production : Bool) :
    p.blasLapackFor production =
      if production then p.blasLapackProduction.getD p.blasLapack else p.blasLapack := by
  unfold Profile.blasLapackFor
  cases p.blasLapackProduction with
  | none => cases production <;> rfl
  | some libraries => cases production <;> rfl

/-! ## The order -/

/-- The three lists of a configuration, each from its first entry to its last.  The profile is
the one that the hooks leave, whatever they do to it. -/
theorem lists_of_configure {m : Machine} {options : Options} {session : Session}
    {c : Configuration} (configured : (configure m options session).result = .ok c) :
    ∃ (h : Host) (base : LinkLine),
      (adjustments m session.build options.root).Succeeds ⟨session.tree, m.profile⟩ () h ∧
      Foundation session.build options h c.petscRelease base ∧
      (session.build.compiler = .intel → h.profile.intel.isSome = true) ∧
      c.line.includePaths = base.includePaths ++ h.profile.includePaths ∧
      c.line.libPaths = base.libPaths ++ intelLibPaths session.build options.root h.profile ++
        h.profile.libPaths.map (Path.absolute options.root) ∧
      c.line.libraries = base.libraries ++ h.profile.libraries ++
        (if session.build.usingDealii then ["blas", "lapack"]
          else if session.build.production then
            h.profile.blasLapackProduction.getD h.profile.blasLapack
          else h.profile.blasLapack) ++ ["dl"] ∧
      (session.build.usingDealii = true → c.petscRelease = none ∧
        ∀ hook, configure { m with onPreferences := hook } options session =
          configure m options session) := by
  rcases Action.succeeds_onPart_iff.mp (Action.Succeeds.of_result configured) with ⟨s', run, _⟩
  rcases succeeds_steps_iff.mp run with
    ⟨h, release, resolved, intel, paths, b, adjusted, first, found, _, _, rfl, rfl⟩
  rcases extended_of_succeeds_first first with ⟨tools, more, rfl⟩
  have foundation : Foundation session.build options h release more :=
    foundation_of_succeeds_first first
  rcases line_of_succeeds_intel found with ⟨present, left⟩
  refine ⟨h, more, adjusted, foundation, present, ?_, ?_, ?_, ?_⟩
  · simp only [concluded, withMachinePaths, left]
    rfl
  · simp only [concluded, withMachinePaths, left]
    rfl
  · rw [← blasLapackFor_eq]
    simp only [concluded, withMachinePaths, left]
    rfl
  · intro dealii
    refine ⟨?_, configure_of_dealii dealii⟩
    cases foundation with
    | platform petsc _ => rfl
    | petsc petsc _ _ _ =>
        rw [dealii] at petsc
        cases petsc
    | dealii _ _ => rfl

/-! Builds with the Intel compilers, on a machine with hooks, with an older PETSc than the usual
one and with libraries of its own for production. -/

def workstation : Machine where
  id := "workstation"
  source := .builtIn
  profile :=
    { Profile.plain with
      petsc30 := some ⟨"opt/petsc"⟩
      intel := some ⟨"/opt/intel"⟩
      libPaths := [⟨"lib"⟩]
      libraries := ["hdf5"]
      blasLapackProduction := some ["mkl"] }
  onConfigure := some (fun _ _ _ => Host.adjust (fun p => p.addLibraries ["xerces-c"]))
  onPreferences := some (fun _ _ => Host.adjust (fun p => p.addLibPath ⟨"/opt/boost/lib"⟩))
  onModifyBuild := none

def workstationBuild (production : Bool) : Build :=
  { Build.plain with
    compiler := .intel
    production := production
    preferences := OrderedMap.ofList [("boost", "1.36")] }

def workstationTree : FileTree :=
  ((FileTree.empty.makeDirectories? [] ["opt", "intel", "lib"]).bind (fun t =>
    (t.makeDirectories? [] ["opt", "intel", "bin"]).bind (fun t =>
      (t.makeDirectories? [] ["p", "opt", "petsc", "include"]).bind (fun t =>
        t.makeDirectories? [] ["p", "opt", "petsc", "linux-gnu", "lib"])))).getD FileTree.empty

/-- What the two hooks add stands at the end of the machine's own entries, and the libraries for
production are left to production builds. -/
theorem lists_of_configure_workstation :
    (∃ (c : Configuration) (base : LinkLine),
      (configure workstation ⟨⟨"/p"⟩, false⟩ ⟨workstationTree, workstationBuild true⟩).result =
        .ok c ∧
      c.line.libPaths =
        base.libPaths ++ [⟨"/opt/intel/lib"⟩] ++ [⟨"/p/lib"⟩, ⟨"/opt/boost/lib"⟩] ∧
      c.line.libraries = base.libraries ++ ["hdf5", "xerces-c"] ++ ["mkl"] ++ ["dl"]) ∧
    ∃ (c : Configuration) (base : LinkLine),
      (configure workstation ⟨⟨"/p"⟩, false⟩ ⟨workstationTree, workstationBuild false⟩).result =
        .ok c ∧
      c.line.libraries = base.libraries ++ ["hdf5", "xerces-c"] ++ ["blas", "lapack"] ++ ["dl"] := by
  have succeeds : ∀ production, ∃ c,
      (configure workstation ⟨⟨"/p"⟩, false⟩
        ⟨workstationTree, workstationBuild production⟩).result = .ok c := by
    intro production
    cases production <;> exact ⟨_, rfl⟩
  have lists : ∀ production, ∃ (c : Configuration) (base : LinkLine),
      (configure workstation ⟨⟨"/p"⟩, false⟩
        ⟨workstationTree, workstationBuild production⟩).result = .ok c ∧
      c.line.libPaths =
        base.libPaths ++ [⟨"/opt/intel/lib"⟩] ++ [⟨"/p/lib"⟩, ⟨"/opt/boost/lib"⟩] ∧
      c.line.libraries = base.libraries ++ ["hdf5", "xerces-c"] ++
        (if production then ["mkl"] else ["blas", "lapack"]) ++ ["dl"] := by
    intro production
    rcases succeeds production with ⟨c, configured⟩
    rcases lists_of_configure configured with
      ⟨h, base, adjusted, _, _, _, libPaths, libraries, _⟩
    have left := adjusted.state
    subst left
    exact ⟨c, base, configured, libPaths, libraries⟩
  rcases lists false with ⟨c, base, configured, _, libraries⟩
  exact ⟨lists true, c, base, configured, libraries⟩

end Configure
end HostLink
