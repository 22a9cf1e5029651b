import HostLink.Proofs.Action.Kept
import HostLink.Proofs.Configuration.LinkOrder

namespace HostLink
namespace Configure

/-!
# The build after a failure

A run works on the build of its caller, and it takes nothing back when it fails.  The build is
written late, after the hooks, the resolution and the libraries of the Intel compilers, and up
to there a failing run leaves it alone.

One check comes later.  The directory with the commands of the Intel compilers is looked for
after the tools of the machine have been put over those of the build.  A run without that
directory is *stranded*: it fails, and the build has the tools that it had got until then.
-/

/-- The part of a run before the first change of the build. -/
def groundwork (m : Machine) (options : Options) :
    Step (Option PetscRelease × Option Path) := do
  let s ← Action.state
  let preferences := s.build.preferences
  Action.note .debug ("configuring " ++ s.build.text ++ " for machine `" ++ m.id ++ "`")
  runConfigureHook m preferences options.root
  let release ←
    if s.build.usingDealii then resolveDealii
    else resolvePetsc m preferences options.root
  let intel ← useIntelLibraries
  addMachinePaths
  return (release, intel)

/-- The part of a run from the first change of the build on. -/
def finish (m : Machine) (found : Option PetscRelease × Option Path) : Step Configuration := do
  completeTools found.2
  runBuildHook m
  let c ← conclude m found.1
  trace c
  return c

theorem steps_eq (m : Machine) (options : Options) :
    steps m options = groundwork m options >>= fun found => finish m found := by
  unfold steps groundwork finish
  simp only [Action.ite_bind, Action.bind_assoc, Action.pure_bind]

/-! ## Steps that leave the build alone -/

theorem keeps_adjusting (x : Adjustment Unit) : (adjusting x).Keeps Progress.build := by
  apply Action.keeps_onPart
  intro _ _
  rfl

theorem keeps_resolving {α : Type} (x : FileTree → Build → Action Misconfiguration Context α) :
    (resolving x).Keeps Progress.build := by
  intro s
  unfold resolving
  rw [Action.onPart_state]

theorem keeps_updateContext (f : Context → Context) : (updateContext f).Keeps Progress.build :=
  Action.keeps_update (fun _ => rfl)

theorem keeps_require (path : Path) (component : String) :
    (require path component).Keeps Progress.build :=
  Action.keeps_state_bind (fun _ => Action.keeps_ofExcept _)

theorem keeps_runConfigureHook (m : Machine) (preferences : Preferences) (root : Path) :
    (runConfigureHook m preferences root).Keeps Progress.build := by
  unfold runConfigureHook
  cases m.onConfigure with
  | none => exact Action.keeps_pure' ()
  | some hook => exact Action.keeps_state_bind (fun _ => keeps_adjusting _)

theorem keeps_applyPreferences (m : Machine) (preferences : Preferences) (root : Path) :
    (applyPreferences m preferences root).Keeps Progress.build := by
  unfold applyPreferences
  apply Action.keeps_ite (Action.keeps_pure' ())
  cases m.onPreferences with
  | some hook => exact keeps_adjusting _
  | none => exact Action.keeps_ite (Action.keeps_pure' ()) (Action.keeps_fail _)

theorem keeps_resolveDealii : resolveDealii.Keeps Progress.build := by
  apply Action.keeps_bind (keeps_resolving _)
  intro _
  exact Action.keeps_bind (keeps_updateContext _) (fun _ => Action.keeps_pure _)

theorem keeps_resolvePetsc (m : Machine) (preferences : Preferences) (root : Path) :
    (resolvePetsc m preferences root).Keeps Progress.build := by
  apply Action.keeps_bind (keeps_applyPreferences m preferences root)
  intro _
  apply Action.keeps_bind (keeps_resolving _)
  intro _
  apply Action.keeps_state_bind
  intro _
  exact Action.keeps_bind (keeps_updateContext _) (fun _ => Action.keeps_pure _)

theorem keeps_useIntelLibraries : useIntelLibraries.Keeps Progress.build := by
  apply Action.keeps_state_bind
  intro s
  cases s.build.compiler with
  | gcc => exact Action.keeps_pure _
  | intel =>
      cases s.context.profile.intel with
      | none => exact Action.keeps_fail _
      | some path =>
          apply Action.keeps_bind (keeps_require _ _)
          intro _
          apply Action.keeps_bind (keeps_require _ _)
          intro _
          exact Action.keeps_bind (keeps_updateContext _) (fun _ => Action.keeps_pure _)

/-- However far a run gets before the tools, the build is that of its caller. -/
theorem keeps_groundwork (m : Machine) (options : Options) :
    (groundwork m options).Keeps Progress.build := by
  apply Action.keeps_state_bind
  intro s
  apply Action.keeps_bind (Action.keeps_note _ _)
  intro _
  apply Action.keeps_bind (keeps_runConfigureHook m _ _)
  intro _
  have resolved : (if s.build.usingDealii then resolveDealii
      else resolvePetsc m s.build.preferences options.root).Keeps Progress.build :=
    Action.keeps_ite keeps_resolveDealii (keeps_resolvePetsc m _ _)
  rw [Action.ite_bind]
  apply Action.keeps_bind resolved
  intro _
  apply Action.keeps_bind keeps_useIntelLibraries
  intro _
  exact Action.keeps_bind (keeps_updateContext _) (fun _ => Action.keeps_pure _)

/-! ## The tools -/

/-- The tools of a build before the commands of the Intel compilers are put in. -/
def wrappedTools (b : Build) (p : Profile) : Tools :=
  match p.icpc with
  | some icpc => wrapping icpc (b.tools.overlay p.tools)
  | none => b.tools.overlay p.tools

/-- The build that a run leaves without the commands of the Intel compilers. -/
def strandedBuild (b : Build) (p : Profile) : Build :=
  { b with tools := wrappedTools b p }

theorem require_bind_of_absent {α : Type} {path : Path} {component : String} {f : Unit → Step α}
    {s : Progress} (absent : s.tree.present path = false) :
    (require path component >>= f) s = ⟨.error (.pathNotFound component path), s, []⟩ := by
  have refused : require path component s = ⟨.error (.pathNotFound component path), s, []⟩ := by
    unfold require
    rw [Action.state_bind_apply, FileTree.require_of_absent absent]
    rfl
  exact Action.bind_apply_error refused f

/-- Without the commands the tools are left half completed. -/
theorem completeTools_of_absent {base : Path} {s : Progress}
    (absent : s.tree.present (base.child "bin") = false) :
    completeTools (some base) s =
      ⟨.error (.pathNotFound intelComponent (base.child "bin")),
        { s with build := strandedBuild s.build s.context.profile }, []⟩ := by
  unfold completeTools useIntelTools strandedBuild wrappedTools updateBuild
  rw [Action.state_bind_apply]
  cases icpc : s.context.profile.icpc with
  | none =>
      simp only [Action.update_bind_apply, Action.state_bind_apply, icpc, Action.pure_bind']
      exact require_bind_of_absent absent
  | some command =>
      simp only [Action.update_bind_apply, Action.state_bind_apply, icpc]
      exact require_bind_of_absent absent

/-- With the commands, or without a need for them, nothing is left that could fail. -/
theorem succeeds_finish {m : Machine} (last : m.onModifyBuild = none)
    {release : Option PetscRelease} {intel : Option Path} {s : Progress}
    (present : ∀ base, intel = some base → s.tree.present (base.child "bin") = true) :
    ∃ c s', (finish m (release, intel)).Succeeds s c s' := by
  have hookless : ∀ s : Progress, (runBuildHook m).Succeeds s () s := by
    intro s
    unfold runBuildHook
    rw [last]
    exact Action.succeeds_pure_iff'.mpr ⟨rfl, rfl⟩
  have completes : ∃ t : Progress, t = { s with build :=
      { s.build with tools := completedTools s.build s.context.profile intel } } := ⟨_, rfl⟩
  rcases completes with ⟨t, completed⟩
  have tools : (completeTools intel).Succeeds s () t :=
    succeeds_completeTools_iff.mpr ⟨present, completed⟩
  refine ⟨concluded m release t, t, ?_⟩
  apply Action.succeeds_bind_iff.mpr
  refine ⟨(), t, tools, Action.succeeds_bind_iff.mpr ⟨(), t, hookless t, ?_⟩⟩
  apply Action.succeeds_bind_iff.mpr
  refine ⟨_, t, succeeds_conclude_iff.mpr ⟨rfl, rfl⟩, Action.succeeds_bind_iff.mpr ?_⟩
  exact ⟨(), t, succeeds_trace_iff.mpr rfl, Action.succeeds_pure_iff.mpr ⟨rfl, rfl⟩⟩

theorem finish_of_absent (m : Machine) {release : Option PetscRelease} {base : Path} {s : Progress}
    (absent : s.tree.present (base.child "bin") = false) :
    finish m (release, some base) s =
      ⟨.error (.pathNotFound intelComponent (base.child "bin")),
        { s with build := strandedBuild s.build s.context.profile }, []⟩ :=
  Action.bind_apply_error (completeTools_of_absent absent) _

/-! ## The whole run -/

/-- The first part of a run in its stages. -/
theorem succeeds_groundwork_iff {m : Machine} {options : Options} {s s' : Progress}
    {release : Option PetscRelease} {intel : Option Path} :
    (groundwork m options).Succeeds s (release, intel) s' ↔
      ∃ h resolved paths,
        (adjustments m s.build options.root).Succeeds s.host () h ∧
        (firstResolution h.tree s.build).Succeeds (s.withHost h).context release resolved ∧
        useIntelLibraries.Succeeds
          { s.withHost h with context := withMachineLibraries s.build resolved } intel paths ∧
        s' = { paths with context := withMachinePaths paths.context } := by
  unfold groundwork
  rw [Action.succeeds_state_bind_iff, Action.succeeds_note_bind_iff]
  simp only [Action.ite_bind]
  simp only [Action.succeeds_bind_iff, addMachinePaths, updateContext,
    Action.succeeds_update_iff, Action.succeeds_pure_iff, Prod.mk.injEq]
  constructor
  · rintro ⟨_, s₁, hooked, _, s₂, linked, _, paths, found, _, _, rfl, ⟨rfl, rfl⟩, rfl⟩
    rcases succeeds_resolution_iff.mp (Action.succeeds_bind_iff.mpr ⟨(), s₁, hooked, linked⟩) with
      ⟨h, resolved, adjusted, first, rfl⟩
    exact ⟨h, resolved, paths, adjusted, first, found, rfl⟩
  · rintro ⟨h, resolved, paths, adjusted, first, found, rfl⟩
    rcases Action.succeeds_bind_iff.mp
      (succeeds_resolution_iff.mpr ⟨h, resolved, adjusted, first, rfl⟩) with ⟨_, s₁, hooked, linked⟩
    exact ⟨(), s₁, hooked, release, _, linked, intel, paths, found, (), _, rfl, ⟨rfl, rfl⟩, rfl⟩

/-- The state in which a run starts. -/
def Session.progress (session : Session) (m : Machine) (options : Options) : Progress :=
  ⟨session.tree, session.build, Context.start m.profile options.root options.skipPetsc⟩

/-- A run that finds everything but the commands of the Intel compilers. -/
structure Stranded (m : Machine) (options : Options) (session : Session) (resolved : Context)
    (base : Path) : Prop where
  compiler : session.build.compiler = .intel
  prepared : ∃ h release,
    (adjustments m session.build options.root).Succeeds ⟨session.tree, m.profile⟩ () h ∧
    (firstResolution h.tree session.build).Succeeds
      (Context.start h.profile options.root options.skipPetsc) release resolved ∧
    (∃ path, h.profile.intel = some path ∧ base = Path.absolute options.root path) ∧
    h.tree.present base = true ∧ h.tree.present (base.child "lib") = true ∧
    h.tree.present (base.child "bin") = false

section

variable {m : Machine} {options : Options} {session : Session} {base : Path}

/-- The first part of a stranded run succeeds, with the place of the compilers. -/
theorem Stranded.laid {resolved : Context} (stranded : Stranded m options session resolved base) :
    ∃ release s, (groundwork m options).Succeeds (session.progress m options)
        (release, some base) s ∧
      s.tree.present (base.child "bin") = false ∧ s.context.profile = resolved.profile := by
  rcases stranded.prepared with
    ⟨h, release, adjusted, first, ⟨path, placed, same⟩, present, libraries, absent⟩
  rcases extended_of_succeeds_first first with ⟨tools, more, extended⟩
  have root : resolved.root = options.root := by rw [extended]; rfl
  have intel : resolved.profile.intel = some path := by rw [extended]; exact placed
  have place : resolved.absolute path = base := by
    unfold Context.absolute
    rw [root, same]
  subst place
  have found : useIntelLibraries.Succeeds
      { (session.progress m options).withHost h with
        context := withMachineLibraries session.build resolved } (some (resolved.absolute path))
      { (session.progress m options).withHost h with
        context := (withMachineLibraries session.build resolved).addLibPaths
          [(resolved.absolute path).child "lib"] } :=
    succeeds_useIntelLibraries_iff.mpr
      (Or.inr ⟨stranded.compiler, path, intel, present, libraries, rfl, rfl⟩)
  exact ⟨release, _, succeeds_groundwork_iff.mpr ⟨h, resolved, _, adjusted, first, found, rfl⟩,
    absent, rfl⟩

/-- Without the commands a run whose first part succeeds is stranded. -/
theorem stranded_of_laid {release : Option PetscRelease} {s : Progress}
    (laid : (groundwork m options).Succeeds (session.progress m options) (release, some base) s)
    (absent : s.tree.present (base.child "bin") = false) :
    ∃ resolved, Stranded m options session resolved base := by
  rcases succeeds_groundwork_iff.mp laid with ⟨h, _, paths, adjusted, first, found, rfl⟩
  rcases extended_of_succeeds_first first with ⟨tools, more, rfl⟩
  rcases succeeds_useIntelLibraries_iff.mp found with
    ⟨_, none, _⟩ | ⟨compiler, path, placed, present, libraries, same, rfl⟩
  · cases none
  · cases same
    exact ⟨_, compiler, h, release, adjusted, first, ⟨path, placed, rfl⟩, present, libraries,
      absent⟩

/-- The end of a run is that of its second part, unless its first part fails. -/
theorem configure_ending (m : Machine) (options : Options) (session : Session) :
    (configure m options session).result =
        ((groundwork m options >>= finish m) (session.progress m options)).result ∧
      (configure m options session).state.build =
        ((groundwork m options >>= finish m) (session.progress m options)).state.build := by
  unfold configure
  rw [Action.onPart_result, Action.onPart_state, steps_eq]
  exact ⟨rfl, rfl⟩

/-- A stranded run fails with the tools half completed. -/
theorem Stranded.ending {resolved : Context} (stranded : Stranded m options session resolved base) :
    (configure m options session).result =
        .error (.pathNotFound intelComponent (base.child "bin")) ∧
      (configure m options session).state.build =
        strandedBuild session.build resolved.profile := by
  rcases stranded.laid with ⟨release, s, laid, absent, profile⟩
  have build : s.build = session.build := by
    rw [← laid.state]
    exact keeps_groundwork m options (session.progress m options)
  rcases configure_ending m options session with ⟨result, left⟩
  rw [result, left, Action.bind_result, Action.bind_state, laid.result, laid.state]
  simp only [finish_of_absent m absent, build, profile, and_self]

/-- A failing run has left the build alone or is stranded. -/
theorem untouched_or_stranded (last : m.onModifyBuild = none) {e : Misconfiguration}
    (failed : (configure m options session).result = .error e) :
    (configure m options session).state.build = session.build ∨
      ∃ resolved base, Stranded m options session resolved base := by
  rcases configure_ending m options session with ⟨result, left⟩
  rw [result, Action.bind_result] at failed
  rw [left, Action.bind_state]
  cases laid : (groundwork m options (session.progress m options)).result with
  | error cause =>
      exact Or.inl (keeps_groundwork m options (session.progress m options))
  | ok found =>
      -- Behind the first part only the commands of the Intel compilers are looked for.
      rcases found with ⟨release, intel⟩
      rw [laid] at failed
      by_cases present : ∀ base, intel = some base →
          (groundwork m options (session.progress m options)).state.tree.present
            (base.child "bin") = true
      · have ends : ∃ c s', (finish m (release, intel)).Succeeds
            (groundwork m options (session.progress m options)).state c s' :=
          succeeds_finish last present
        rcases ends with ⟨c, s', done⟩
        have impossible := done.result.symm.trans failed
        cases impossible
      · rcases Classical.not_forall.mp present with ⟨base, missing⟩
        rcases Classical.not_imp.mp missing with ⟨placed, absent⟩
        rw [placed] at laid
        rcases stranded_of_laid (Action.Succeeds.of_result laid) (Bool.eq_false_iff.mpr absent) with
          ⟨resolved, stranded⟩
        exact Or.inr ⟨resolved, base, stranded⟩

end

/-- A failing run of a machine without a last hook leaves the build as it was, with one exception.
If all but the commands of the Intel compilers is found, the run fails for the missing directory,
and the build is left with the tools of the machine and the wrapped compiler in it. -/
theorem build_of_failure {m : Machine} (last : m.onModifyBuild = none) (options : Options)
    (session : Session) :
    (∀ e, (configure m options session).result = .error e →
      (configure m options session).state.build = session.build ∨
        ∃ resolved base, Stranded m options session resolved base) ∧
    ∀ resolved base, Stranded m options session resolved base →
      (configure m options session).result =
          .error (.pathNotFound intelComponent (base.child "bin")) ∧
        (configure m options session).state.build =
          strandedBuild session.build resolved.profile :=
  ⟨fun _ failed => untouched_or_stranded last failed, fun _ _ stranded => stranded.ending⟩

/-! Intel compilers of which only the libraries are installed. -/

def librariesOnly : Machine where
  id := "lab"
  source := .builtIn
  profile := { Profile.plain with intel := some ⟨"intel"⟩, icpc := some "icpc -m64" }
  onConfigure := none
  onPreferences := none
  onModifyBuild := none

def librariesOnlySession : Session where
  tree := (FileTree.empty.makeDirectories? [] ["w", "intel", "lib"]).getD FileTree.empty
  build := { Build.plain with compiler := .intel }

/-- A failing run of these compilers leaves the wrapped compiler in the build. -/
theorem not_forall_build_unchanged :
    ¬ ∀ (m : Machine) (options : Options) (session : Session) (e : Misconfiguration),
      m.onModifyBuild = none → (configure m options session).result = .error e →
      (configure m options session).state.build = session.build := by
  intro unchanged
  have same := unchanged librariesOnly ⟨⟨"/w"⟩, true⟩ librariesOnlySession _ rfl rfl
  have tool := congrArg (fun b => b.tools.find? "mpicxx") same
  revert tool
  decide

/-- The same failure comes with the changed build, and a build with the other compilers fails
without a change for a version that the machine cannot choose. -/
theorem build_of_failure_librariesOnly :
    (configure librariesOnly ⟨⟨"/w"⟩, true⟩ librariesOnlySession).result =
        .error (.pathNotFound intelComponent ⟨"/w/intel/bin"⟩) ∧
      (configure librariesOnly ⟨⟨"/w"⟩, true⟩ librariesOnlySession).state.build.tools.find?
        "mpicxx" = some "mpicxx -CC=\"icpc -m64\"" ∧
      (configure librariesOnly ⟨⟨"/w"⟩, true⟩
          ⟨FileTree.empty, Build.plain.prefer "boost" "1.36"⟩).state.build =
        Build.plain.prefer "boost" "1.36" := by
  have last : librariesOnly.onModifyBuild = none := rfl
  have stranded : Stranded librariesOnly ⟨⟨"/w"⟩, true⟩ librariesOnlySession
      (Context.start librariesOnly.profile ⟨"/w"⟩ true) ⟨"/w/intel"⟩ :=
    ⟨rfl, ⟨librariesOnlySession.tree, librariesOnly.profile⟩, none, ⟨rfl, rfl⟩, ⟨rfl, rfl⟩,
      ⟨⟨"intel"⟩, rfl, rfl⟩, rfl, rfl, rfl⟩
  have half := (build_of_failure last ⟨⟨"/w"⟩, true⟩ librariesOnlySession).2 _ _ stranded
  have failed : ∃ e, (configure librariesOnly ⟨⟨"/w"⟩, true⟩
      ⟨FileTree.empty, Build.plain.prefer "boost" "1.36"⟩).result = .error e := ⟨_, rfl⟩
  rcases failed with ⟨e, failed⟩
  refine ⟨half.1, ?_, ?_⟩
  · rw [half.2]
    decide
  · rcases (build_of_failure last ⟨⟨"/w"⟩, true⟩ _).1 e failed with
      untouched | ⟨_, _, other⟩
    · exact untouched
    · cases other.compiler

end Configure
end HostLink
