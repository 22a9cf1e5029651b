import HostLink.Proofs.Action
import HostLink.Resolution.Petsc

namespace HostLink

/-!
# What a resolution of PETSc leaves behind

A resolution looks at the tree and at the profile first, and it adds to the link line after
that.  The two halves are separated here.  The choice of a release is a function of tree,
profile and request that changes nothing.  What is added is one link line, put behind the
one that was there, together with the commands that the installation brings along.
`Petsc.succeeds_resolve_iff` says when both halves succeed and what they leave, so that no
later result opens the resolution again.
-/

namespace LinkLine

/-- Two link lines behind each other, in each of the three lists. -/
def append (l m : LinkLine) : LinkLine where
  includePaths := l.includePaths ++ m.includePaths
  libPaths := l.libPaths ++ m.libPaths
  libraries := l.libraries ++ m.libraries

instance : Append LinkLine := ⟨append⟩

theorem append_def (l m : LinkLine) :
    l ++ m = ⟨l.includePaths ++ m.includePaths, l.libPaths ++ m.libPaths,
      l.libraries ++ m.libraries⟩ :=
  rfl

@[simp]
theorem append_empty (l : LinkLine) : l ++ LinkLine.empty = l := by
  simp only [append_def, empty, List.append_nil]

theorem append_assoc (l m n : LinkLine) : l ++ m ++ n = l ++ (m ++ n) := by
  simp only [append_def, List.append_assoc]

end LinkLine

namespace Chain

variable {ν : Type}

/-- The first version in a list whose installation is a directory, with that directory. -/
def firstInstalled (t : FileTree) (installation : ν → Option Path) (versions : List ν) :
    Option (ν × Path) :=
  versions.findSome? (fun v => ((installation v).filter t.isDirectory).map (fun path => (v, path)))

/-- Walking the chain makes notes but changes nothing. -/
theorem succeeds_select_iff {ε σ : Type} {t : FileTree} {installation : ν → Option Path}
    {versions : List ν} {s s' : σ} {found : Option (ν × Path)} :
    (select t installation versions : Action ε σ _).Succeeds s found s' ↔
      found = firstInstalled t installation versions ∧ s' = s := by
  induction versions with
  | nil => exact Action.succeeds_pure_iff'
  | cons version rest inductionHypothesis =>
      unfold select
      cases configured : installation version with
      | none =>
          simp only [firstInstalled, List.findSome?_cons, configured, Option.filter_none,
            Option.map_none]
          exact inductionHypothesis
      | some path =>
          by_cases directory : t.isDirectory path = true
          · simp only [firstInstalled, List.findSome?_cons, configured, directory, if_true,
              Option.filter_some, Option.map_some]
            exact Action.succeeds_pure_iff'
          · simp only [firstInstalled, List.findSome?_cons, configured, directory, if_false,
              Option.filter_some, Option.map_none, Action.succeeds_bind_iff,
              Action.succeeds_note_iff, Bool.false_eq_true]
            constructor
            · rintro ⟨_, _, rfl, later⟩
              exact inductionHypothesis.mp later
            · intro later
              exact ⟨(), s, rfl, inductionHypothesis.mpr later⟩

end Chain

namespace Context

/-- Where a release is installed according to the profile, taken from the project root. -/
def installation (c : Context) (release : PetscRelease) : Option Path :=
  (c.profile.petscPath release).map c.absolute

/-- The context with more behind its link line and with other tools in its profile. -/
def extended (c : Context) (tools : Tools) (more : LinkLine) : Context :=
  { c with profile := { c.profile with tools := tools }, line := c.line ++ more }

end Context

namespace Petsc

/-- The release that meets a request, and where it is installed. -/
def chosen? (t : FileTree) (c : Context) (requested : String) : Option (PetscRelease × Path) :=
  (PetscRelease.ofVersion? requested).bind (fun wanted =>
    Chain.firstInstalled t c.installation wanted.chain.versions)

theorem succeeds_chooseRelease_iff {t : FileTree} {requested : String} {c c' : Context}
    {choice : PetscRelease × Path} :
    (chooseRelease t requested).Succeeds c choice c' ↔
      chosen? t c requested = some choice ∧ c' = c := by
  unfold chooseRelease chosen?
  cases PetscRelease.ofVersion? requested with
  | none => simp
  | some wanted =>
      simp only [Action.succeeds_bind_iff, Action.succeeds_state_iff, Chain.installed,
        Chain.succeeds_select_iff, Option.bind_some]
      change _ ↔ Chain.firstInstalled t (fun r => (c.profile.petscPath r).map c.absolute) _ = _ ∧ _
      constructor
      · rintro ⟨_, _, ⟨rfl, rfl⟩, found, _, ⟨same, rfl⟩, rest⟩
        rw [← same]
        cases found with
        | none => exact absurd rest Action.not_succeeds_fail
        | some choice' =>
            rcases choice' with ⟨release, base⟩
            by_cases fallback : release ≠ wanted
            · simpa [fallback, eq_comm] using rest
            · simpa [fallback, eq_comm] using rest
      · rintro ⟨found, rfl⟩
        refine ⟨c', c', ⟨rfl, rfl⟩, some choice, c', ⟨found.symm, rfl⟩, ?_⟩
        rcases choice with ⟨release, base⟩
        by_cases fallback : release ≠ wanted
        · simp [fallback]
        · simp [fallback]

/-- The tools of a profile with the commands that an installation brings along. -/
def bundled (t : FileTree) (commands : Option Path) (tools : Tools) : Tools :=
  match commands with
  | none => tools
  | some dir =>
      ["mpicxx", "mpirun"].foldl
        (fun tools tool =>
          if t.present (dir.child tool) then tools.insert tool (dir.child tool).text else tools)
        tools

/-- The commands are looked for one after another, each in the tools that the last one left. -/
theorem succeeds_useCommands_iff {t : FileTree} {dir : Path} {c c' : Context} {a : Unit} :
    (useCommands t dir).Succeeds c a c' ↔
      c' = c.extended (bundled t (some dir) c.profile.tools) LinkLine.empty := by
  have one : ∀ (tool : String) (c c' : Context),
      Action.Succeeds (do
          let path := dir.child tool
          if t.present path then do
            Action.note .debug ("using PETSc-bundled " ++ tool ++ ": " ++ path.text)
            Action.update (fun c => c.setTool tool path.text) :
              Action Misconfiguration Context Unit)
          c () c' ↔
        c' = if t.present (dir.child tool) then c.setTool tool (dir.child tool).text else c := by
    intro tool c c'
    by_cases present : t.present (dir.child tool) = true
    · simp [present]
    · simp [present]
  unfold useCommands
  simp only [Action.succeeds_forEach_cons_iff, Action.succeeds_forEach_nil_iff, one,
    exists_eq_left]
  by_cases compiler : t.present (dir.child "mpicxx") = true <;>
    by_cases starter : t.present (dir.child "mpirun") = true <;>
    simp [compiler, starter, bundled, Context.extended, Context.setTool, LinkLine.append_empty]

/-- What a found installation adds: its two directories of headers and, unless only headers
are asked for, its libraries. -/
def contribution (release : PetscRelease) (base : Path) (found : Layout) (headersOnly : Bool) :
    LinkLine where
  includePaths := [found.archHeaders, base.child "include"]
  libPaths := if headersOnly then [] else [found.libPath]
  libraries := if headersOnly then [] else libraries release

/-- The end of a resolution: every directory that is added after the headers of the build is
checked first. -/
def addChecked (t : FileTree) (release : PetscRelease) (base : Path) (found : Layout)
    (headersOnly : Bool) : Action Misconfiguration Context (Option PetscRelease) := do
  let headers := base.child "include"
  if !t.isDirectory headers then
    Action.fail (.directoryNotFound component "headers" headers)
  Action.update (fun c => c.addIncludes [headers])
  if !headersOnly then
    if !t.isDirectory found.libPath then
      Action.fail (.directoryNotFound component "libraries" found.libPath)
    Action.update (fun c => (c.addLibPaths [found.libPath]).addLibraries (libraries release))
  return some release

/-- The second half of a resolution, for a release whose layout is known. -/
def complete (t : FileTree) (release : PetscRelease) (base : Path) (found : Layout)
    (headersOnly : Bool) : Action Misconfiguration Context (Option PetscRelease) := do
  Action.update (fun c => c.addIncludes [found.archHeaders])
  match found.commands with
  | some commands => do
      useCommands t commands
      addChecked t release base found headersOnly
  | none => do
      Action.pure ()
      addChecked t release base found headersOnly

/-- A resolution is its two halves, unless PETSc is left to the platform. -/
theorem resolve_eq (t : FileTree) (requested : String) (flavour : Flavour) (headersOnly : Bool) :
    resolve t requested flavour headersOnly = (do
      let c ← Action.state
      if c.skipPetsc then
        Action.note .info "PETSc supplied by the platform, skipping"
        return none
      else
        let choice ← chooseRelease t requested
        let found ← Action.ofExcept (layout t c.profile flavour choice.1 choice.2)
        complete t choice.1 choice.2 found headersOnly) :=
  rfl

theorem succeeds_addChecked_iff {t : FileTree} {release : PetscRelease} {base : Path}
    {found : Layout} {headersOnly : Bool} {c c' : Context} {outcome : Option PetscRelease} :
    (addChecked t release base found headersOnly).Succeeds c outcome c' ↔
      t.isDirectory (base.child "include") = true ∧
      (headersOnly = false → t.isDirectory found.libPath = true) ∧
      outcome = some release ∧
      c' = { c with line := c.line ++ ⟨[base.child "include"],
        if headersOnly then [] else [found.libPath],
        if headersOnly then [] else libraries release⟩ } := by
  unfold addChecked
  by_cases headers : t.isDirectory (base.child "include") = true
  · cases headersOnly with
    | true => simp [headers, Context.addIncludes, LinkLine.addIncludes, LinkLine.append_def]
    | false =>
        by_cases linked : t.isDirectory found.libPath = true
        · simp [headers, linked, Context.addIncludes, LinkLine.addIncludes, LinkLine.append_def,
            Context.addLibPaths, LinkLine.addLibPaths, Context.addLibraries,
            LinkLine.addLibraries]
        · simp [headers, linked]
  · simp [headers]

/-- The second half succeeds exactly if the directories are there. -/
theorem succeeds_complete_iff {t : FileTree} {release : PetscRelease} {base : Path}
    {found : Layout} {headersOnly : Bool} {c c' : Context} {outcome : Option PetscRelease} :
    (complete t release base found headersOnly).Succeeds c outcome c' ↔
      t.isDirectory (base.child "include") = true ∧
      (headersOnly = false → t.isDirectory found.libPath = true) ∧
      outcome = some release ∧
      c' = c.extended (bundled t found.commands c.profile.tools)
        (contribution release base found headersOnly) := by
  unfold complete
  rw [Action.succeeds_update_bind_iff]
  cases commands : found.commands with
  | none =>
      rw [Action.succeeds_pure_bind_iff, succeeds_addChecked_iff]
      simp [bundled, Context.extended, contribution, Context.addIncludes,
        LinkLine.addIncludes, LinkLine.append_def]
  | some dir =>
      simp only [Action.succeeds_bind_iff, succeeds_useCommands_iff, succeeds_addChecked_iff,
        exists_eq_left, exists_const]
      simp [Context.extended, contribution, Context.addIncludes,
        LinkLine.addIncludes, LinkLine.append_def, LinkLine.empty]

/-- A resolution succeeds in two ways: PETSc is left to the platform, or a release is chosen
of which all directories are there.  In the second case it adds the contribution of that
release and takes over its commands, and nothing else changes. -/
theorem succeeds_resolve_iff {t : FileTree} {requested : String} {flavour : Flavour}
    {headersOnly : Bool} {c c' : Context} {outcome : Option PetscRelease} :
    (resolve t requested flavour headersOnly).Succeeds c outcome c' ↔
      (c.skipPetsc = true ∧ outcome = none ∧ c' = c) ∨
      (c.skipPetsc = false ∧ ∃ release base found,
        chosen? t c requested = some (release, base) ∧
        layout t c.profile flavour release base = .ok found ∧
        t.isDirectory (base.child "include") = true ∧
        (headersOnly = false → t.isDirectory found.libPath = true) ∧
        outcome = some release ∧
        c' = c.extended (bundled t found.commands c.profile.tools)
          (contribution release base found headersOnly)) := by
  rw [resolve_eq, Action.succeeds_state_bind_iff]
  cases skipped : c.skipPetsc with
  | true => simp
  | false =>
      simp only [Bool.false_eq_true, if_false, false_and, false_or, true_and,
        Action.succeeds_bind_iff (x := chooseRelease t requested), succeeds_chooseRelease_iff,
        Action.succeeds_ofExcept_bind_iff, succeeds_complete_iff]
      constructor
      · rintro ⟨⟨release, base⟩, _, ⟨choice, rfl⟩, found, laidOut, done⟩
        exact ⟨release, base, found, choice, laidOut, done⟩
      · rintro ⟨release, base, found, choice, laidOut, done⟩
        exact ⟨(release, base), c, ⟨choice, rfl⟩, found, laidOut, done⟩

/-- The tools and the link line are all that a resolution changes, and it only adds to the
latter. -/
theorem extended_of_succeeds {t : FileTree} {requested : String} {flavour : Flavour}
    {headersOnly : Bool} {c c' : Context} {outcome : Option PetscRelease}
    (resolved : (resolve t requested flavour headersOnly).Succeeds c outcome c') :
    ∃ tools more, c' = c.extended tools more := by
  rcases succeeds_resolve_iff.mp resolved with
    ⟨_, _, same⟩ | ⟨_, release, base, found, _, _, _, _, _, same⟩
  · refine ⟨c.profile.tools, LinkLine.empty, ?_⟩
    rw [same, Context.extended, LinkLine.append_empty]
  · exact ⟨_, _, same⟩

end Petsc
end HostLink
