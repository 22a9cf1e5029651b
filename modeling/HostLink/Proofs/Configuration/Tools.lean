import HostLink.Proofs.Configuration.Run
import HostLink.Proofs.OrderedMap
import HostLink.Proofs.Resolution.DealiiLine
import HostLink.Proofs.Resolution.Growth

namespace HostLink
namespace Configure

/-!
# Which command a tool gets

Four sources write the tools of a configuration, each over what the last one has left: the build
of the caller, the machine with its hooks, the PETSc that was selected, and the Intel compilers.
So the command of a tool is the one of the last source that has one, and this is said here for
each tool, with the one command that is not replaced but continued.

Only releases 3.0 and 3.1 of PETSc bring commands along, and neither stands below Deal.II.
-/

/-- The directory of the commands that the selected PETSc brings along. -/
structure Brings (h : Host) (b : Build) (options : Options) (selected : Option PetscRelease)
    (dir : Path) : Prop where
  petsc : b.usingDealii = false
  used : options.skipPetsc = false
  place : ∃ (wanted release : PetscRelease) (base : Path) (found : Petsc.Layout),
    selected = some release ∧ (release = .v3_0 ∨ release = .v3_1) ∧
    Text.leading 3 (requestedPetsc b.preferences) = wanted.name ∧
    Petsc.IsNewest h.tree (Context.start h.profile options.root options.skipPetsc) wanted release
      base ∧
    Petsc.IsChosen h.tree release (Petsc.layouts h.profile b.flavour release base) found ∧
    found.commands = some dir

/-- The command of a tool before the Intel compilers come in: what PETSc brings along, else what
the machine says, else what the build had. -/
def settledCommand? (h : Host) (commands : Option Path) (b : Build) (tool : String) :
    Option String :=
  (Petsc.bundledCommand? h.tree commands tool).or
    ((h.profile.tools.find? tool).or (b.tools.find? tool))

/-- The command of a tool with Intel compilers that are installed in a directory. -/
def intelCommand? (base : Path) (icpc : Option String) (settled : String → Option String)
    (tool : String) : Option String :=
  if tool = "cxx" then some ((base.child "bin").child "icpc").text
  else if tool = "ar" then some ((base.child "bin").child "xiar").text
  else
    match icpc with
    | some command =>
        if tool = "mpicxx" then some ((settled tool).getD "" ++ " -CC=\"" ++ command ++ "\"")
        else settled tool
    | none => settled tool

/-! ## The tools of the resolution -/

/-- The commands of a layout, and that only the later releases have some. -/
theorem commands_of_mem_layouts {p : Profile} {flavour : Flavour} {release : PetscRelease}
    {base dir : Path} {found : Petsc.Layout}
    (listed : found ∈ Petsc.layouts p flavour release base) (commands : found.commands = some dir) :
    release = .v3_0 ∨ release = .v3_1 := by
  cases release with
  | v3_0 => exact Or.inl rfl
  | v3_1 => exact Or.inr rfl
  | _ =>
      rcases List.mem_map.mp listed with ⟨_, _, rfl⟩
      cases commands

/-- The commands of the layout that a resolution of PETSc has chosen are those that the selected
PETSc brings along. -/
theorem commands_iff_brings {b : Build} {options : Options} {h : Host} {release : PetscRelease}
    {base : Path} {found : Petsc.Layout} (petsc : b.usingDealii = false)
    (used : options.skipPetsc = false)
    (picked : Petsc.chosen? h.tree (Context.start h.profile options.root options.skipPetsc)
      (requestedPetsc b.preferences) = some (release, base))
    (laidOut : Petsc.layout h.tree h.profile b.flavour release base = .ok found) (dir : Path) :
    found.commands = some dir ↔ Brings h b options (some release) dir := by
  constructor
  · intro commands
    have chosen := Petsc.layout_eq_ok_iff.mp laidOut
    rcases Petsc.chosen?_eq_some_iff.mp picked with ⟨wanted, named, newest⟩
    exact ⟨petsc, used, wanted, release, base, found, rfl,
      commands_of_mem_layouts (Petsc.mem_of_isChosen chosen) commands, named, newest, chosen,
      commands⟩
  · rintro ⟨_, _, wanted, other, place, twin, same, _, named, newest, chosen, commands⟩
    -- Release, place and layout are functions of the request, so the twin is the layout found.
    have again := Petsc.chosen?_eq_some_iff.mpr ⟨wanted, named, newest⟩
    rw [picked] at again
    cases again
    have ending := Petsc.layout_eq_ok_iff.mpr chosen
    rw [laidOut] at ending
    cases ending
    exact commands

/-- The resolution puts the commands of PETSc over those that the hooks have left. -/
theorem profile_of_succeeds_first {b : Build} {options : Options} {h : Host}
    {release : Option PetscRelease} {resolved : Context}
    (first : (firstResolution h.tree b).Succeeds
      (Context.start h.profile options.root options.skipPetsc) release resolved) :
    ∃ commands, (∀ dir, commands = some dir ↔ Brings h b options release dir) ∧
      resolved.profile =
        { h.profile with tools := Petsc.bundled h.tree commands h.profile.tools } := by
  unfold firstResolution at first
  cases dealii : b.usingDealii with
  | true =>
      simp only [dealii, if_true, Action.succeeds_bind_iff, Action.succeeds_pure_iff] at first
      rcases first with ⟨_, _, done, _, rfl⟩
      refine ⟨none, ?_, Dealii.profile_of_succeeds done⟩
      intro dir
      constructor
      · intro impossible
        cases impossible
      · intro brings
        rw [brings.petsc] at dealii
        cases dealii
  | false =>
      simp only [dealii, if_false, Bool.false_eq_true] at first
      rcases Petsc.succeeds_resolve_iff.mp first with
        ⟨skipped, _, rfl⟩ | ⟨used, release, base, found, picked, laidOut, _, _, rfl, rfl⟩
      · refine ⟨none, ?_, rfl⟩
        intro dir
        constructor
        · intro impossible
          cases impossible
        · intro brings
          have wanted : options.skipPetsc = true := skipped
          rw [brings.used] at wanted
          cases wanted
      · exact ⟨found.commands, commands_iff_brings dealii used picked laidOut, rfl⟩

/-! ## The tools of the build -/

theorem find?_wrapping (icpc : String) (tools : Tools) (tool : String) :
    (wrapping icpc tools).find? tool =
      if tool = "mpicxx" then
        some ((tools.find? tool).getD "" ++ " -CC=\"" ++ icpc ++ "\"")
      else tools.find? tool := by
  unfold wrapping
  by_cases same : tool = "mpicxx"
  · subst same
    rw [if_pos rfl, OrderedMap.find?_insert_self]
  · rw [if_neg same, OrderedMap.find?_insert_of_ne _ (Ne.symm same)]

section

variable {h : Host} {commands : Option Path} {p : Profile}

/-- Without the Intel compilers the tools are settled. -/
theorem find?_completedTools_none (b : Build)
    (brought : p = { h.profile with tools := Petsc.bundled h.tree commands h.profile.tools })
    (tool : String) :
    (completedTools b p none).find? tool = settledCommand? h commands b tool := by
  subst brought
  change (b.tools.overlay (Petsc.bundled h.tree commands h.profile.tools)).find? tool = _
  rw [OrderedMap.find?_overlay, Petsc.find?_bundled, Option.or_assoc, settledCommand?]

theorem find?_completedTools_some (b : Build)
    (brought : p = { h.profile with tools := Petsc.bundled h.tree commands h.profile.tools })
    (base : Path) (tool : String) :
    (completedTools b p (some base)).find? tool =
      intelCommand? base h.profile.icpc (settledCommand? h commands b) tool := by
  have settled := find?_completedTools_none b brought
  have icpc : p.icpc = h.profile.icpc := by rw [brought]
  have before : ∀ name, (b.tools.overlay p.tools).find? name = settledCommand? h commands b name :=
    settled
  unfold completedTools intelCommand?
  simp only [icpc]
  by_cases compiler : tool = "cxx"
  · subst compiler
    rw [if_pos rfl, OrderedMap.find?_insert_of_ne _ (by decide), OrderedMap.find?_insert_self]
  · by_cases archiver : tool = "ar"
    · subst archiver
      rw [if_neg (by decide), if_pos rfl, OrderedMap.find?_insert_self]
    · rw [if_neg compiler, if_neg archiver,
        OrderedMap.find?_insert_of_ne _ (Ne.symm archiver),
        OrderedMap.find?_insert_of_ne _ (Ne.symm compiler)]
      cases h.profile.icpc with
      | none => exact before tool
      | some command => simp only [find?_wrapping, before]

end

/-- A tool that had a command has one with the Intel compilers as well. -/
theorem isSome_intelCommand? {base : Path} {icpc : Option String}
    {settled : String → Option String} {tool : String}
    (known : (settled tool).isSome = true) :
    (intelCommand? base icpc settled tool).isSome = true := by
  unfold intelCommand?
  split
  · rfl
  · split
    · rfl
    · cases icpc with
      | none => exact known
      | some command =>
          simp only
          split
          · rfl
          · exact known

theorem isSome_settledCommand? {h : Host} {commands : Option Path} {b : Build} {tool : String}
    (known : (b.tools.find? tool).isSome = true ∨ (h.profile.tools.find? tool).isSome = true) :
    (settledCommand? h commands b tool).isSome = true := by
  unfold settledCommand?
  rw [Option.isSome_or, Option.isSome_or, Bool.or_eq_true, Bool.or_eq_true]
  exact Or.inr known.symm

/-! ## The tools of a configuration -/

/-- The installation of the Intel compilers for a build, if the build uses them. -/
def IntelPlace (b : Build) (root : Path) (p : Profile) : Option Path → Prop
  | none => b.compiler = .gcc
  | some base => b.compiler = .intel ∧ ∃ path, p.intel = some path ∧ base = Path.absolute root path

/-- Without a last hook the tools of a configuration are completed once, from the profile that
the resolution has left, and nothing else of the build is changed. -/
theorem completed_of_configure {m : Machine} {options : Options} {session : Session}
    {c : Configuration} (last : m.onModifyBuild = none)
    (configured : (configure m options session).result = .ok c) :
    ∃ h resolved intel,
      (adjustments m session.build options.root).Succeeds ⟨session.tree, m.profile⟩ () h ∧
      (firstResolution h.tree session.build).Succeeds
        (Context.start h.profile options.root options.skipPetsc) c.petscRelease resolved ∧
      IntelPlace session.build options.root resolved.profile intel ∧
      c.tools = completedTools session.build resolved.profile intel ∧
      (configure m options session).state.build = { session.build with tools := c.tools } := by
  rcases Action.succeeds_onPart_iff.mp (Action.Succeeds.of_result configured) with
    ⟨_, run, left⟩
  rcases succeeds_steps_iff.mp run with
    ⟨h, release, resolved, intel, paths, b, adjusted, first, found, _, hookless, rfl, rfl⟩
  unfold lastAdjustment at hookless
  rw [last] at hookless
  have build := (Action.succeeds_pure_iff'.mp hookless).2
  subst build
  rcases extended_of_succeeds_first first with ⟨tools, more, extended⟩
  have root : resolved.root = options.root := by rw [extended]; rfl
  refine ⟨h, resolved, intel, adjusted, first, ?_⟩
  rcases succeeds_useIntelLibraries_iff.mp found with
    ⟨compiler, rfl, rfl⟩ | ⟨compiler, path, placed, _, _, rfl, rfl⟩
  · refine ⟨compiler, rfl, ?_⟩
    exact congrArg Session.build left
  · refine ⟨⟨compiler, path, placed, ?_⟩, rfl, ?_⟩
    · change resolved.absolute path = _
      rw [Context.absolute, root]
    · exact congrArg Session.build left

/-- The tools of a configuration are those that the build is left with, and the command of each
is the one of the last source that has one.  The Intel compilers replace the compiler and the
archiver, and they continue the command of the parallel compiler if the machine says so. -/
theorem tools_of_configure {m : Machine} {options : Options} {session : Session}
    {c : Configuration} (last : m.onModifyBuild = none)
    (configured : (configure m options session).result = .ok c) :
    ∃ (h : Host) (commands : Option Path),
      (adjustments m session.build options.root).Succeeds ⟨session.tree, m.profile⟩ () h ∧
      (∀ dir, commands = some dir ↔ Brings h session.build options c.petscRelease dir) ∧
      (configure m options session).state.build = { session.build with tools := c.tools } ∧
      (session.build.compiler = .gcc →
        ∀ tool, c.tools.find? tool = settledCommand? h commands session.build tool) ∧
      (session.build.compiler = .intel → ∃ path, h.profile.intel = some path ∧
        ∀ tool, c.tools.find? tool =
          intelCommand? (Path.absolute options.root path) h.profile.icpc
            (settledCommand? h commands session.build) tool) ∧
      (∀ tool, ((session.build.tools.find? tool).isSome = true ∨
          (h.profile.tools.find? tool).isSome = true) →
        (c.tools.find? tool).isSome = true) := by
  rcases completed_of_configure last configured with
    ⟨h, resolved, intel, adjusted, first, place, tools, left⟩
  rcases profile_of_succeeds_first first with ⟨commands, brings, brought⟩
  refine ⟨h, commands, adjusted, brings, left, ?_⟩
  cases intel with
  | none =>
      have compiler : session.build.compiler = .gcc := place
      have settled : ∀ tool, c.tools.find? tool =
          settledCommand? h commands session.build tool := by
        intro tool
        rw [tools, find?_completedTools_none session.build brought]
      refine ⟨fun _ => settled, ?_, ?_⟩
      · intro intel
        rw [compiler] at intel
        cases intel
      · intro tool known
        rw [settled]
        exact isSome_settledCommand? known
  | some base =>
      rcases place with ⟨compiler, path, placed, rfl⟩
      have replaced : ∀ tool, c.tools.find? tool =
          intelCommand? (Path.absolute options.root path) h.profile.icpc
            (settledCommand? h commands session.build) tool := by
        intro tool
        rw [tools, find?_completedTools_some session.build brought]
      rw [brought] at placed
      refine ⟨?_, fun _ => ⟨path, placed, replaced⟩, ?_⟩
      · intro gcc
        rw [compiler] at gcc
        cases gcc
      · intro tool known
        rw [replaced]
        exact isSome_intelCommand? (isSome_settledCommand? known)

/-! Intel compilers, and a PETSc 3.1 that brings a parallel compiler along. -/

def parallelHost : Machine where
  id := "lab"
  source := .builtIn
  profile := { Profile.plain with
    petsc31 := some ⟨"/petsc"⟩
    intel := some ⟨"/intel"⟩
    icpc := some "icpc -m64"
    tools := OrderedMap.ofList [("mpicxx", "mpic++")] }
  onConfigure := none
  onPreferences := none
  onModifyBuild := none

def parallelTree : FileTree :=
  ((FileTree.empty.makeDirectories? [] ["petsc", "include"]).bind (fun t =>
    (t.makeDirectories? [] ["petsc", "linux-gnu", "lib"]).bind (fun t =>
      (t.makeDirectories? [] ["intel", "lib"]).bind (fun t =>
        (t.makeDirectories? [] ["intel", "bin"]).bind (fun t =>
          t.putFile? ["petsc", "linux-gnu", "bin", "mpicxx"] [] true))))).getD FileTree.empty

def parallelBuild : Build :=
  { Build.plain with compiler := .intel }

def parallelOptions : Options where
  root := ⟨"/p"⟩
  skipPetsc := false

/-- The host for which this build is configured; it has no hooks. -/
def parallelSetting : Host :=
  ⟨parallelTree, parallelHost.profile⟩

theorem brings_parallel :
    Brings parallelSetting parallelBuild parallelOptions (some .v3_1)
      ⟨"/petsc/linux-gnu/bin"⟩ := by
  have picked : Petsc.chosen? parallelSetting.tree
      (Context.start parallelSetting.profile parallelOptions.root parallelOptions.skipPetsc)
      (requestedPetsc parallelBuild.preferences) = some (.v3_1, ⟨"/petsc"⟩) := rfl
  have laidOut : ∃ found, Petsc.layout parallelSetting.tree parallelSetting.profile
      parallelBuild.flavour .v3_1 ⟨"/petsc"⟩ = .ok found ∧
        found.commands = some ⟨"/petsc/linux-gnu/bin"⟩ := ⟨_, rfl, rfl⟩
  rcases laidOut with ⟨found, laidOut, commanded⟩
  exact (commands_iff_brings rfl rfl picked laidOut _).mp commanded

/-- The parallel compiler that comes along is continued, and not the one of the machine. -/
theorem tools_of_configure_parallelHost :
    ∃ c : Configuration,
      (configure parallelHost parallelOptions ⟨parallelTree, parallelBuild⟩).result = .ok c ∧
      c.tools.find? "mpicxx" = some "/petsc/linux-gnu/bin/mpicxx -CC=\"icpc -m64\"" ∧
      c.tools.find? "mpirun" = some "mpirun" := by
  have configured : ∃ c,
      (configure parallelHost parallelOptions ⟨parallelTree, parallelBuild⟩).result = .ok c ∧
        c.petscRelease = some .v3_1 := ⟨_, rfl, rfl⟩
  rcases configured with ⟨c, configured, selected⟩
  have last : parallelHost.onModifyBuild = none := rfl
  rcases tools_of_configure last configured with ⟨h, commands, adjusted, brings, _, _, intel, _⟩
  have host : h = parallelSetting := adjusted.state.symm
  subst host
  rw [selected] at brings
  have brought := (brings _).mpr brings_parallel
  subst brought
  rcases intel rfl with ⟨path, placed, command⟩
  cases placed
  refine ⟨c, configured, ?_, ?_⟩
  · rw [command]
    decide
  · rw [command]
    decide

end Configure
end HostLink
