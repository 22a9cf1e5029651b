import HostLink.Proofs.Action.Pairs
import HostLink.Proofs.Configuration.Run
import HostLink.Proofs.Machine.Supply

namespace HostLink

/-!
# What a configuration with Deal.II does not depend on

A build with Deal.II says more than such a configuration uses.  Deal.II and the PETSc that
comes with it are found by the optimised flag alone, BLAS and LAPACK are fixed, and the versions
asked for are not looked at.  So two builds that differ in nothing but the other flags and the
versions get the same configuration, up to the word of the build in it, or fail for the same
cause.

This is shown by comparing the two runs step by step.  Between any two steps the files and the
resolutions are equal, and the builds are still alike.
-/

/-- Builds with Deal.II that a configuration does not tell apart. -/
structure Build.AlikeForDealii (b c : Build) : Prop where
  dealii : b.usingDealii = true
  dealii' : c.usingDealii = true
  compiler : b.compiler = c.compiler
  optimised : b.optimised = c.optimised
  dealiiDebugging : b.dealiiDebugging = c.dealiiDebugging
  tools : b.tools = c.tools

/-- Configurations of builds that are alike: only the word of the build may differ. -/
def Configuration.SameButBuild (x y : Configuration) : Prop :=
  x = { y with build := x.build }

namespace Configure

/-- Runs that differ in their builds only, and in these no more than Deal.II allows. -/
structure Progress.Alike (s t : Progress) : Prop where
  tree : s.tree = t.tree
  context : s.context = t.context
  build : s.build.AlikeForDealii t.build

/-! ## Steps that match -/

theorem matches_adjusting (x : Adjustment Unit) :
    (adjusting x).Matches Progress.Alike Eq (adjusting x) := by
  refine Action.matches_onPart ?_ ?_
  · rintro s t ⟨tree, context, _⟩
    rw [tree, context]
  · rintro h s t ⟨_, context, build⟩
    exact ⟨rfl, by rw [context], build⟩

/-- A resolution that does not tell the builds apart does the same for both. -/
theorem matches_resolving {α : Type} {x : FileTree → Build → Action Misconfiguration Context α}
    (steady : ∀ t b c, b.AlikeForDealii c → x t b = x t c) :
    (resolving x).Matches Progress.Alike Eq (resolving x) := by
  intro s t same
  have part : (Action.onPart Progress.context (fun c s => { s with context := c })
      (x t.tree t.build)).Matches Progress.Alike Eq
      (Action.onPart Progress.context (fun c s => { s with context := c }) (x t.tree t.build)) :=
    Action.matches_onPart (fun _ _ same => same.context)
      (fun _ _ _ same => ⟨same.tree, rfl, same.build⟩)
  unfold resolving
  rw [same.tree, steady t.tree s.build t.build same.build]
  exact part s t same

theorem matches_updateContext (f : Context → Context) :
    (updateContext f).Matches Progress.Alike Eq (updateContext f) :=
  Action.matches_update (fun _ _ same => ⟨same.tree, by rw [same.context], same.build⟩)

theorem matches_require (path : Path) (component : String) :
    (require path component).Matches Progress.Alike Eq (require path component) := by
  refine Action.matches_state_bind ?_
  intro s t same
  rw [same.tree]
  exact Action.matches_ofExcept _

/-- Tools may change by what they are. -/
theorem matches_updateTools (f : Tools → Tools) :
    (updateBuild (fun b => { b with tools := f b.tools })).Matches Progress.Alike Eq
      (updateBuild (fun b => { b with tools := f b.tools })) :=
  Action.matches_update (fun _ _ same =>
    ⟨same.tree, same.context, { same.build with tools := congrArg f same.build.tools }⟩)

/-- The first hook of a steady machine does not look at the versions asked for. -/
theorem matches_runConfigureHook {m : Machine} (steady : m.Steady) (p q : Preferences)
    (root : Path) :
    (runConfigureHook m p root).Matches Progress.Alike Eq (runConfigureHook m q root) := by
  unfold runConfigureHook
  rcases steady.first with absent | ⟨adjustment, present⟩
  · rw [absent]
    exact Action.matches_pure' rfl
  · rw [present]
    exact Action.matches_state_bind (fun _ _ _ => matches_adjusting (adjustment root))

/-- Deal.II is resolved by two flags of a build. -/
theorem dealii_resolve_congr {b c : Build} (alike : b.AlikeForDealii c) (t : FileTree) :
    Dealii.resolve t b = Dealii.resolve t c := by
  unfold Dealii.resolve
  rw [alike.optimised, alike.dealiiDebugging]

theorem matches_resolveDealii : resolveDealii.Matches Progress.Alike Eq resolveDealii := by
  have resolved : (resolving Dealii.resolve).Matches Progress.Alike Eq
      (resolving Dealii.resolve) :=
    matches_resolving (fun t _ _ alike => dealii_resolve_congr alike t)
  exact Action.matches_bind_unit resolved
    (Action.matches_bind_unit (matches_updateContext _) (Action.matches_pure rfl))

theorem matches_useIntelLibraries :
    useIntelLibraries.Matches Progress.Alike Eq useIntelLibraries := by
  refine Action.matches_state_bind ?_
  intro s t same
  rw [same.build.compiler, same.context]
  cases t.build.compiler with
  | gcc => exact Action.matches_pure rfl
  | intel =>
      cases t.context.profile.intel with
      | none => exact Action.matches_fail _
      | some path =>
          exact Action.matches_bind_unit (matches_require _ _)
            (Action.matches_bind_unit (matches_require _ _)
              (Action.matches_bind_unit (matches_updateContext _) (Action.matches_pure rfl)))

theorem matches_useIntelTools (base : Path) :
    (useIntelTools base).Matches Progress.Alike Eq (useIntelTools base) := by
  refine Action.matches_state_bind ?_
  intro s t same
  rw [same.context]
  have own := matches_updateTools (fun tools =>
    (tools.insert "cxx" ((base.child "bin").child "icpc").text).insert "ar"
      ((base.child "bin").child "xiar").text)
  cases t.context.profile.icpc with
  | none =>
      exact Action.matches_bind_unit (Action.matches_pure' rfl)
        (Action.matches_bind_unit (matches_require _ _) own)
  | some icpc =>
      exact Action.matches_bind_unit (matches_updateTools (wrapping icpc))
        (Action.matches_bind_unit (matches_require _ _) own)

theorem matches_completeTools (intel : Option Path) :
    (completeTools intel).Matches Progress.Alike Eq (completeTools intel) := by
  refine Action.matches_state_bind ?_
  intro s t same
  rw [same.context]
  refine Action.matches_bind_unit (matches_updateTools (fun tools => tools.overlay _)) ?_
  cases intel with
  | none => exact Action.matches_pure' rfl
  | some base => exact matches_useIntelTools base

theorem matches_runBuildHook {m : Machine} (steady : m.Steady) :
    (runBuildHook m).Matches Progress.Alike Eq (runBuildHook m) := by
  unfold runBuildHook
  rw [steady.last]
  exact Action.matches_pure' rfl

theorem matches_conclude (m : Machine) (release : Option PetscRelease) :
    (conclude m release).Matches Progress.Alike Configuration.SameButBuild
      (conclude m release) := by
  refine Action.matches_of_succeeds ?_
  intro s t same
  refine ⟨_, s, _, t, succeeds_conclude_iff.mpr ⟨rfl, rfl⟩, succeeds_conclude_iff.mpr ⟨rfl, rfl⟩,
    ?_, same⟩
  unfold Configuration.SameButBuild concluded
  rw [same.context, same.build.tools]

theorem matches_trace (x y : Configuration) :
    (trace x).Matches Progress.Alike Eq (trace y) := by
  refine Action.matches_of_succeeds ?_
  intro s t same
  exact ⟨(), s, (), t, succeeds_trace_iff.mpr rfl, succeeds_trace_iff.mpr rfl, rfl, same⟩

/-- The whole runs match. -/
theorem matches_steps {m : Machine} (steady : m.Steady) (options : Options) :
    (steps m options).Matches Progress.Alike Configuration.SameButBuild (steps m options) := by
  refine Action.matches_state_bind ?_
  intro s t same
  refine Action.matches_note_bind ?_
  refine Action.matches_bind_unit (matches_runConfigureHook steady _ _ _) ?_
  -- Both builds have Deal.II, so neither run comes to the hook for the versions.
  rw [same.build.dealii, same.build.dealii']
  refine Action.matches_bind matches_resolveDealii ?_
  rintro release _ rfl
  refine Action.matches_bind matches_useIntelLibraries ?_
  rintro intel _ rfl
  refine Action.matches_bind_unit (matches_updateContext _) ?_
  refine Action.matches_bind_unit (matches_completeTools intel) ?_
  refine Action.matches_bind_unit (matches_runBuildHook steady) ?_
  refine Action.matches_bind (matches_conclude m release) ?_
  intro x y alike
  exact Action.matches_bind_unit (matches_trace x y) (Action.matches_pure alike)

/-- Builds with Deal.II that differ in the profiling, production and debug flags and in the
versions asked for, at most, get the same configuration apart from the word of the build, or
none for the same cause.  Files and tools are left the same in any case. -/
theorem configure_dealii_matches {m : Machine} (supplied : m.Supplied) (options : Options)
    (tree : FileTree) {b c : Build} (alike : b.AlikeForDealii c) :
    (configure m options ⟨tree, b⟩).Matches
      (fun s t => s.tree = t.tree ∧ s.build.tools = t.build.tools)
      Configuration.SameButBuild (configure m options ⟨tree, c⟩) := by
  have start : Progress.Alike
      ⟨tree, b, Context.start m.profile options.root options.skipPetsc⟩
      ⟨tree, c, Context.start m.profile options.root options.skipPetsc⟩ := ⟨rfl, rfl, alike⟩
  rcases matches_steps supplied.steady options _ _ start with ⟨result, left⟩
  unfold configure
  refine ⟨?_, ?_⟩
  · rw [Action.onPart_result, Action.onPart_result]
    exact result
  · rw [Action.onPart_state, Action.onPart_state]
    exact ⟨left.tree, left.build.tools⟩

/-- Deal.II 6 and the headers of PETSc 2.3. -/
def dealiiTree : FileTree :=
  ((FileTree.empty.putFile? ["dealii", "Version"] [54, 46, 50] false).bind
    (·.makeDirectories? [] ["petsc", "include"])).getD FileTree.empty

/-- A machine file that says where these are. -/
def dealiiDescription : MachineDescription where
  summary := none
  places := Places.none
  versions := OrderedMap.empty
  profile := { Profile.plain with dealii := some ⟨"/dealii"⟩, petsc23 := some ⟨"/petsc"⟩ }

/-- A build with Deal.II, and the same with flags and versions that do not count. -/
theorem configure_dealii_matches_described :
    let m := dealiiDescription.toMachine "lab" (.file ⟨"/lab.toml"⟩)
    let b : Build := { Build.plain with usingDealii := true }
    let c : Build := { b with
      profiling := true
      production := true
      debug := true
      preferences := OrderedMap.ofList [("boost", "1.36"), ("petsc", "3.0")] }
    ∃ x y, (configure m ⟨⟨"/"⟩, false⟩ ⟨dealiiTree, b⟩).result = .ok x ∧
      (configure m ⟨⟨"/"⟩, false⟩ ⟨dealiiTree, c⟩).result = .ok y ∧
      x.SameButBuild y ∧ x.build = "GccDealii" := by
  intro m b c
  have alike : b.AlikeForDealii c := ⟨rfl, rfl, rfl, rfl, rfl, rfl⟩
  have word : (configure m ⟨⟨"/"⟩, false⟩ ⟨dealiiTree, b⟩).result.toOption.map
      Configuration.build = some "GccDealii" := by decide
  rcases configure_dealii_matches (.described dealiiDescription "lab" (.file ⟨"/lab.toml"⟩))
    ⟨⟨"/"⟩, false⟩ dealiiTree alike with ⟨⟨e, failed, _⟩ | ⟨x, y, done, done', same⟩, _⟩
  · rw [failed] at word
    cases word
  · rw [done] at word
    exact ⟨x, y, done, done', same, Option.some.inj word⟩

end Configure
end HostLink
