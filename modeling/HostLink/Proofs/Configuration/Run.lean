import HostLink.Configuration
import HostLink.Proofs.Resolution.Dealii

namespace HostLink

/-!
# The course of a configuration

A configuration runs through the hooks of the machine, the resolution of PETSc or Deal.II,
the paths and tools of the machine, and a last hook.  For each of these steps there is one
result here that says what it needs to succeed and what it leaves.  They are put together in
`Configure.succeeds_steps_iff`, which describes a whole run by three stages: the host after the
hooks, the context after the resolution, and the configuration.

The hooks are arbitrary.  They see the files and the profile and nothing else of a run, and
this alone keeps them from touching the link line.
-/

namespace Profile

/-- The preprocessor symbols of a profile, without the notes on unknown names. -/
def symbolList (p : Profile) : List String :=
  (if p.uses .cvode then
      ["CHASTE_SUNDIALS_VERSION=" ++ toString (p.cvodeVersion.getD usualCvodeVersion).toNat]
    else []) ++ p.used.map Feature.symbol

theorem succeeds_symbols_iff {ε σ : Type} {p : Profile} {s s' : σ} {symbols : List String} :
    (p.symbols : Action ε σ _).Succeeds s symbols s' ↔ symbols = p.symbolList ∧ s' = s := by
  unfold Profile.symbols usedNoting
  simp only [Action.succeeds_bind_iff, Action.succeeds_pure_iff,
    Action.succeeds_forEach_note_iff]
  constructor
  · rintro ⟨_, _, ⟨_, _, rfl, rfl, rfl⟩, rfl, rfl⟩
    exact ⟨rfl, rfl⟩
  · rintro ⟨rfl, rfl⟩
    exact ⟨p.used, s', ⟨(), s', rfl, rfl, rfl⟩, rfl, rfl⟩

end Profile

namespace Configure

namespace Progress

/-- What the hooks see of a run. -/
def host (s : Progress) : Host :=
  ⟨s.tree, s.context.profile⟩

/-- A run after the hooks have left another host. -/
def withHost (s : Progress) (h : Host) : Progress :=
  { s with tree := h.tree, context := { s.context with profile := h.profile } }

end Progress

/-! ## The hooks before the resolution -/

/-- What the first hook of a machine does. -/
def firstAdjustment (m : Machine) (b : Build) (root : Path) : Adjustment Unit :=
  match m.onConfigure with
  | none => Action.pure ()
  | some hook => hook b.preferences b root

/-- What a machine does about the versions asked for. -/
def preferenceAdjustment (m : Machine) (preferences : Preferences) (root : Path) :
    Adjustment Unit :=
  if preferences.isEmpty then Action.pure ()
  else
    match m.onPreferences with
    | some hook => hook preferences root
    | none =>
        if m.handlesPreferences then Action.pure ()
        else Action.fail (.unsupportedPreferences m.id preferences.shown)

/-- All that the hooks do to the host before anything is resolved.  A build with Deal.II does
not ask for versions. -/
def adjustments (m : Machine) (b : Build) (root : Path) : Adjustment Unit := do
  firstAdjustment m b root
  if b.usingDealii then Action.pure () else preferenceAdjustment m b.preferences root

/-- Without Deal.II the two hooks run one after the other. -/
theorem succeeds_adjustments_iff {m : Machine} {b : Build} {root : Path} {h h' : Host}
    (petsc : b.usingDealii = false) :
    (adjustments m b root).Succeeds h () h' ↔
      ∃ h₀, (firstAdjustment m b root).Succeeds h () h₀ ∧
        (preferenceAdjustment m b.preferences root).Succeeds h₀ () h' := by
  unfold adjustments
  simp only [petsc, Bool.false_eq_true, if_false, Action.succeeds_bind_iff]
  constructor
  · rintro ⟨_, h₀, first, preferred⟩
    exact ⟨h₀, first, preferred⟩
  · rintro ⟨h₀, first, preferred⟩
    exact ⟨(), h₀, first, preferred⟩

theorem succeeds_adjusting_iff {x : Adjustment Unit} {s s' : Progress} {a : Unit} :
    (adjusting x).Succeeds s a s' ↔ ∃ h, x.Succeeds s.host a h ∧ s' = s.withHost h :=
  Action.succeeds_onPart_iff

theorem succeeds_runConfigureHook_iff {m : Machine} {root : Path} {s s' : Progress} {a : Unit} :
    (runConfigureHook m s.build.preferences root).Succeeds s a s' ↔
      ∃ h, (firstAdjustment m s.build root).Succeeds s.host a h ∧ s' = s.withHost h := by
  unfold runConfigureHook firstAdjustment
  cases m.onConfigure with
  | none =>
      simp only [Action.succeeds_pure_iff', true_and, exists_eq_left]
      rfl
  | some hook => rw [Action.succeeds_state_bind_iff, succeeds_adjusting_iff]

theorem succeeds_applyPreferences_iff {m : Machine} {preferences : Preferences} {root : Path}
    {s s' : Progress} {a : Unit} :
    (applyPreferences m preferences root).Succeeds s a s' ↔
      ∃ h, (preferenceAdjustment m preferences root).Succeeds s.host a h ∧
        s' = s.withHost h := by
  unfold applyPreferences preferenceAdjustment
  by_cases vacant : preferences.isEmpty = true
  · simp only [vacant, if_true, Action.succeeds_pure_iff', true_and, exists_eq_left]
    rfl
  · simp only [vacant, if_false, Bool.false_eq_true]
    cases m.onPreferences with
    | some hook => exact succeeds_adjusting_iff
    | none =>
        by_cases handled : m.handlesPreferences = true
        · simp only [handled, if_true, Action.succeeds_pure_iff', true_and, exists_eq_left]
          rfl
        · simp [handled]

/-! ## The resolution -/

/-- The resolution of what comes first on the link line, Deal.II or PETSc alone. -/
def firstResolution (t : FileTree) (b : Build) :
    Action Misconfiguration Context (Option PetscRelease) :=
  if b.usingDealii then do
    Dealii.resolve t b
    return none
  else Petsc.resolve t (requestedPetsc b.preferences) b.flavour false

/-- BLAS and LAPACK of a build; Deal.II brings its own along. -/
def numerics (b : Build) (p : Profile) : List String :=
  if b.usingDealii then ["blas", "lapack"] else p.blasLapackFor b.production

/-- The resolution with the libraries of the machine behind it. -/
def withMachineLibraries (b : Build) (c : Context) : Context :=
  (c.addLibraries c.profile.libraries).addLibraries (numerics b c.profile)

/-- The tools and the link line are all that a resolution changes. -/
theorem extended_of_succeeds_first {t : FileTree} {b : Build} {c c' : Context}
    {release : Option PetscRelease}
    (resolved : (firstResolution t b).Succeeds c release c') :
    ∃ tools more, c' = c.extended tools more := by
  unfold firstResolution at resolved
  cases dealii : b.usingDealii with
  | true =>
      simp only [dealii, if_true, Action.succeeds_bind_iff, Action.succeeds_pure_iff] at resolved
      rcases resolved with ⟨_, _, inner, _, rfl⟩
      exact Dealii.extended_of_succeeds inner
  | false =>
      simp only [dealii, if_false, Bool.false_eq_true] at resolved
      exact Petsc.extended_of_succeeds resolved

theorem succeeds_resolving_iff {α : Type}
    {x : FileTree → Build → Action Misconfiguration Context α} {s s' : Progress} {a : α} :
    (resolving x).Succeeds s a s' ↔
      ∃ c, (x s.tree s.build).Succeeds s.context a c ∧ s' = { s with context := c } :=
  Action.succeeds_onPart_iff (x := x s.tree s.build)

theorem succeeds_resolveDealii_iff {s s' : Progress} {release : Option PetscRelease}
    (dealii : s.build.usingDealii = true) :
    resolveDealii.Succeeds s release s' ↔
      ∃ c, (firstResolution s.tree s.build).Succeeds s.context release c ∧
        s' = { s with context := withMachineLibraries s.build c } := by
  simp only [resolveDealii, updateContext, firstResolution, withMachineLibraries, numerics, dealii,
    if_true, Action.succeeds_bind_iff, Action.succeeds_pure_iff, Action.succeeds_update_iff,
    succeeds_resolving_iff]
  constructor
  · rintro ⟨_, _, ⟨c, resolved, rfl⟩, _, _, rfl, rfl, rfl⟩
    exact ⟨c, ⟨(), c, resolved, rfl, rfl⟩, rfl⟩
  · rintro ⟨_, ⟨_, c, resolved, rfl, rfl⟩, left⟩
    exact ⟨(), _, ⟨_, resolved, rfl⟩, (), _, rfl, rfl, left⟩

/-- Without Deal.II the versions asked for are seen to first. -/
theorem succeeds_resolvePetsc_iff {m : Machine} {root : Path} {s s' : Progress}
    {release : Option PetscRelease} (petsc : s.build.usingDealii = false) :
    (resolvePetsc m s.build.preferences root).Succeeds s release s' ↔
      ∃ h c, (preferenceAdjustment m s.build.preferences root).Succeeds s.host () h ∧
        (firstResolution h.tree s.build).Succeeds (s.withHost h).context release c ∧
        s' = { s.withHost h with context := withMachineLibraries s.build c } := by
  simp only [resolvePetsc, updateContext, firstResolution, withMachineLibraries, numerics, petsc,
    Bool.false_eq_true, if_false, Action.succeeds_bind_iff, Action.succeeds_pure_iff,
    Action.succeeds_update_iff, Action.succeeds_state_iff, succeeds_resolving_iff,
    succeeds_applyPreferences_iff]
  constructor
  · rintro ⟨_, _, ⟨h, adjusted, rfl⟩, release, _, ⟨c, resolved, rfl⟩, _, _, ⟨rfl, rfl⟩, _, _,
      rfl, rfl, rfl⟩
    exact ⟨h, c, adjusted, resolved, rfl⟩
  · rintro ⟨h, c, adjusted, resolved, rfl⟩
    exact ⟨(), _, ⟨h, adjusted, rfl⟩, release, _, ⟨c, resolved, rfl⟩, _, _, ⟨rfl, rfl⟩, (), _,
      rfl, rfl, rfl⟩

/-! ## The machine's own part -/

theorem succeeds_require_bind_iff {α : Type} {path : Path} {component : String}
    {f : Unit → Step α} {s s' : Progress} {a : α} :
    (require path component >>= f).Succeeds s a s' ↔
      s.tree.present path = true ∧ (f ()).Succeeds s a s' := by
  simp only [require, Action.succeeds_bind_iff, Action.succeeds_state_iff,
    Action.succeeds_ofExcept_iff, FileTree.require_eq_ok_iff]
  constructor
  · rintro ⟨_, _, ⟨_, _, ⟨rfl, rfl⟩, present, rfl⟩, rest⟩
    exact ⟨present, rest⟩
  · rintro ⟨present, rest⟩
    exact ⟨(), s, ⟨s, s, ⟨rfl, rfl⟩, present, rfl⟩, rest⟩

/-- Below the installation of the Intel compilers only the libraries are looked for here. -/
theorem succeeds_useIntelLibraries_iff {s s' : Progress} {intel : Option Path} :
    useIntelLibraries.Succeeds s intel s' ↔
      (s.build.compiler = .gcc ∧ intel = none ∧ s' = s) ∨
      (s.build.compiler = .intel ∧ ∃ path,
        s.context.profile.intel = some path ∧
        s.tree.present (s.context.absolute path) = true ∧
        s.tree.present ((s.context.absolute path).child "lib") = true ∧
        intel = some (s.context.absolute path) ∧
        s' = { s with
          context := s.context.addLibPaths [(s.context.absolute path).child "lib"] }) := by
  unfold useIntelLibraries
  rw [Action.succeeds_state_bind_iff]
  cases s.build.compiler with
  | gcc => simp
  | intel =>
      cases s.context.profile.intel with
      | none => simp
      | some path => simp [succeeds_require_bind_iff, updateContext]

/-- The paths of the machine and the loader library. -/
def withMachinePaths (c : Context) : Context :=
  ((c.addIncludes c.profile.includePaths).addLibPaths
    (c.profile.libPaths.map c.absolute)).addLibraries ["dl"]

/-- The tools of a build with those of the machine over them, and those of the Intel compilers
over both. -/
def completedTools (b : Build) (p : Profile) (intel : Option Path) : Tools :=
  let tools := b.tools.overlay p.tools
  match intel with
  | none => tools
  | some base =>
      ((match p.icpc with
        | some icpc => wrapping icpc tools
        | none => tools).insert "cxx" ((base.child "bin").child "icpc").text).insert "ar"
        ((base.child "bin").child "xiar").text

theorem succeeds_completeTools_iff {intel : Option Path} {s s' : Progress} {a : Unit} :
    (completeTools intel).Succeeds s a s' ↔
      (∀ base, intel = some base → s.tree.present (base.child "bin") = true) ∧
      s' = { s with build :=
        { s.build with tools := completedTools s.build s.context.profile intel } } := by
  unfold completeTools
  rw [Action.succeeds_state_bind_iff, updateBuild, Action.succeeds_update_bind_iff]
  cases intel with
  | none => simp [completedTools]
  | some base =>
      unfold useIntelTools
      rw [Action.succeeds_state_bind_iff]
      cases icpc : s.context.profile.icpc with
      | none => simp [completedTools, succeeds_require_bind_iff, updateBuild, icpc]
      | some command => simp [completedTools, succeeds_require_bind_iff, updateBuild, icpc]

/-- What the last hook of a machine does.  It has only the build before it. -/
def lastAdjustment (m : Machine) : Action Misconfiguration Build Unit :=
  match m.onModifyBuild with
  | none => Action.pure ()
  | some hook => hook

theorem succeeds_runBuildHook_iff {m : Machine} {s s' : Progress} {a : Unit} :
    (runBuildHook m).Succeeds s a s' ↔
      ∃ b, (lastAdjustment m).Succeeds s.build a b ∧ s' = { s with build := b } := by
  unfold runBuildHook lastAdjustment
  cases m.onModifyBuild with
  | none => simp
  | some hook => exact Action.succeeds_onPart_iff

/-- The configuration that a run arrives at. -/
def concluded (m : Machine) (release : Option PetscRelease) (s : Progress) : Configuration where
  machine := m.id
  build := s.build.text
  petscRelease := release
  line := s.context.line
  tools := s.build.tools
  symbols := s.context.profile.symbolList
  compileFlags := s.context.profile.compileFlags
  linkFlags := s.context.profile.linkFlags

theorem succeeds_conclude_iff {m : Machine} {release : Option PetscRelease} {s s' : Progress}
    {c : Configuration} :
    (conclude m release).Succeeds s c s' ↔ c = concluded m release s ∧ s' = s := by
  unfold conclude
  rw [Action.succeeds_state_bind_iff]
  simp only [Action.succeeds_bind_iff, Profile.succeeds_symbols_iff, Action.succeeds_pure_iff]
  constructor
  · rintro ⟨_, _, ⟨rfl, rfl⟩, rfl, rfl⟩
    exact ⟨rfl, rfl⟩
  · rintro ⟨rfl, rfl⟩
    exact ⟨_, _, ⟨rfl, rfl⟩, rfl, rfl⟩

theorem succeeds_trace_iff {c : Configuration} {s s' : Progress} {a : Unit} :
    (trace c).Succeeds s a s' ↔ s' = s := by
  unfold trace
  rw [Action.succeeds_state_bind_iff]
  by_cases wanted : s.build.debug = true
  · simp only [wanted, if_true]
    exact Action.succeeds_forEach_note_iff
  · simp only [wanted, if_false, Bool.false_eq_true, Action.succeeds_pure_iff, true_and]

/-! ## A whole run -/

/-- The first two stages of a run: the hooks make a host, and the resolution makes a context
of it. -/
theorem succeeds_resolution_iff {m : Machine} {root : Path} {s s' : Progress}
    {release : Option PetscRelease} :
    (runConfigureHook m s.build.preferences root >>= fun _ =>
      if s.build.usingDealii then resolveDealii
      else resolvePetsc m s.build.preferences root).Succeeds s release s' ↔
      ∃ h resolved, (adjustments m s.build root).Succeeds s.host () h ∧
        (firstResolution h.tree s.build).Succeeds (s.withHost h).context release resolved ∧
        s' = { s.withHost h with context := withMachineLibraries s.build resolved } := by
  unfold adjustments
  cases dealii : s.build.usingDealii with
  | true =>
      simp only [if_true, Action.succeeds_bind_iff, succeeds_runConfigureHook_iff,
        Action.succeeds_pure_iff', true_and]
      constructor
      · rintro ⟨_, _, ⟨h, adjusted, rfl⟩, rest⟩
        rcases (succeeds_resolveDealii_iff (s := s.withHost h) dealii).mp rest with
          ⟨c, resolved, left⟩
        exact ⟨h, c, ⟨(), h, adjusted, rfl⟩, resolved, left⟩
      · rintro ⟨h, c, ⟨_, _, adjusted, rfl⟩, resolved, left⟩
        exact ⟨(), _, ⟨h, adjusted, rfl⟩,
          (succeeds_resolveDealii_iff (s := s.withHost h) dealii).mpr ⟨c, resolved, left⟩⟩
  | false =>
      simp only [Bool.false_eq_true, if_false, Action.succeeds_bind_iff,
        succeeds_runConfigureHook_iff]
      constructor
      · rintro ⟨_, _, ⟨g, adjusted, rfl⟩, rest⟩
        rcases (succeeds_resolvePetsc_iff (s := s.withHost g) dealii).mp rest with
          ⟨h, c, preferred, resolved, left⟩
        exact ⟨h, c, ⟨(), g, adjusted, preferred⟩, resolved, left⟩
      · rintro ⟨h, c, ⟨_, g, adjusted, preferred⟩, resolved, left⟩
        exact ⟨(), _, ⟨g, adjusted, rfl⟩,
          (succeeds_resolvePetsc_iff (s := s.withHost g) dealii).mpr
            ⟨h, c, preferred, resolved, left⟩⟩

/-- A run in its stages: the host that the hooks leave, the context that the resolution makes
of it, the machine's own paths and tools, and the build that the last hook leaves. -/
theorem succeeds_steps_iff {m : Machine} {options : Options} {s s' : Progress}
    {c : Configuration} :
    (steps m options).Succeeds s c s' ↔
      ∃ h release resolved intel paths b,
        (adjustments m s.build options.root).Succeeds s.host () h ∧
        (firstResolution h.tree s.build).Succeeds (s.withHost h).context release resolved ∧
        useIntelLibraries.Succeeds
          { s.withHost h with context := withMachineLibraries s.build resolved } intel paths ∧
        (∀ base, intel = some base → paths.tree.present (base.child "bin") = true) ∧
        (lastAdjustment m).Succeeds
          { paths.build with
            tools := completedTools paths.build paths.context.profile intel } () b ∧
        s' = { paths with context := withMachinePaths paths.context, build := b } ∧
        c = concluded m release s' := by
  unfold steps
  rw [Action.succeeds_state_bind_iff, Action.succeeds_note_bind_iff]
  simp only [Action.ite_bind]
  simp only [Action.succeeds_bind_iff, addMachinePaths, updateContext,
    Action.succeeds_update_iff, succeeds_completeTools_iff, succeeds_runBuildHook_iff,
    succeeds_conclude_iff, succeeds_trace_iff, Action.succeeds_pure_iff]
  constructor
  · rintro ⟨_, s₁, hooked, release, s₂, linked, intel, paths, found, _, _, rfl, _, _,
      ⟨present, rfl⟩, _, _, ⟨b, last, rfl⟩, _, _, ⟨rfl, rfl⟩, _, _, rfl, rfl, rfl⟩
    rcases succeeds_resolution_iff.mp (Action.succeeds_bind_iff.mpr ⟨(), s₁, hooked, linked⟩) with
      ⟨h, resolved, adjusted, first, rfl⟩
    exact ⟨h, release, resolved, intel, paths, b, adjusted, first, found, present, last, rfl, rfl⟩
  · rintro ⟨h, release, resolved, intel, paths, b, adjusted, first, found, present, last, rfl, rfl⟩
    rcases Action.succeeds_bind_iff.mp
      (succeeds_resolution_iff.mpr ⟨h, resolved, adjusted, first, rfl⟩) with ⟨_, s₁, hooked, linked⟩
    exact ⟨(), s₁, hooked, release, _, linked, intel, paths, found, (), _, rfl, (), _,
      ⟨present, rfl⟩, (), _, ⟨b, last, rfl⟩, _, _, ⟨rfl, rfl⟩, (), _, rfl, rfl, rfl⟩

/-- Every configuration has passed the hooks before the resolution, which starts from the host
that they leave. -/
theorem adjusted_of_configure {m : Machine} {options : Options} {session : Session}
    {c : Configuration} (configured : (configure m options session).result = .ok c) :
    ∃ h resolved, (adjustments m session.build options.root).Succeeds
        ⟨session.tree, m.profile⟩ () h ∧
      (firstResolution h.tree session.build).Succeeds
        (Context.start h.profile options.root options.skipPetsc) c.petscRelease resolved := by
  rcases Action.succeeds_onPart_iff.mp (Action.Succeeds.of_result configured) with ⟨s', run, _⟩
  rcases succeeds_steps_iff.mp run with
    ⟨h, release, resolved, _, _, _, adjusted, first, _, _, _, rfl, rfl⟩
  exact ⟨h, resolved, adjusted, first⟩

end Configure
end HostLink
