import HostLink.Proofs.Resolution.Dealii

namespace HostLink

/-!
# Both endings of a resolution

A resolution can fail after it has begun to add to the link line, and what it has added by
then stays.  So the state that it leaves matters in either case.  The equations here give
result and state from three facts: which release was chosen, where its parts lie, and which
of the last two directories are there.
-/

namespace Petsc

/-- The release to use and where it is installed, or why there is none. -/
def choice (t : FileTree) (c : Context) (requested : String) :
    Except Misconfiguration (PetscRelease × Path) :=
  match PetscRelease.ofVersion? requested with
  | none => .error (.unknownVersion component requested)
  | some wanted =>
      match Chain.firstInstalled t c.installation wanted.chain.versions with
      | none =>
          .error (.missingDependency component requested
            (wanted.chain.versions.map PetscRelease.name))
      | some found => .ok found

/-- The chosen release together with the layout of its installation. -/
def located (t : FileTree) (c : Context) (requested : String) (flavour : Flavour) :
    Except Misconfiguration (PetscRelease × Path × Layout) :=
  match choice t c requested with
  | .error e => .error e
  | .ok (release, base) =>
      match layout t c.profile flavour release base with
      | .error e => .error e
      | .ok found => .ok (release, base, found)

/-- What the last two checks say about an installation. -/
def verdict (t : FileTree) (release : PetscRelease) (base : Path) (found : Layout)
    (headersOnly : Bool) : Except Misconfiguration (Option PetscRelease) :=
  if t.isDirectory (base.child "include") then
    if headersOnly || t.isDirectory found.libPath then .ok (some release)
    else .error (.directoryNotFound component "libraries" found.libPath)
  else .error (.directoryNotFound component "headers" (base.child "include"))

/-- What has come behind the headers of the build when the last two checks are over. -/
def checked (t : FileTree) (release : PetscRelease) (base : Path) (found : Layout)
    (headersOnly : Bool) : LinkLine :=
  if t.isDirectory (base.child "include") then
    if headersOnly then ⟨[base.child "include"], [], []⟩
    else if t.isDirectory found.libPath then
      ⟨[base.child "include"], [found.libPath], libraries release⟩
    else ⟨[base.child "include"], [], []⟩
  else LinkLine.empty

/-- All that an installation has added in the end. -/
def added (t : FileTree) (release : PetscRelease) (base : Path) (found : Layout)
    (headersOnly : Bool) : LinkLine :=
  ⟨[found.archHeaders], [], []⟩ ++ checked t release base found headersOnly

section

variable {t : FileTree} {base : Path} (release : PetscRelease) (found : Layout)

/-- Without the common headers a resolution ends there, whatever it was to bring. -/
theorem checks_of_noHeaders (headers : t.isDirectory (base.child "include") = false)
    (headersOnly : Bool) :
    verdict t release base found headersOnly =
        .error (.directoryNotFound component "headers" (base.child "include")) ∧
      added t release base found headersOnly = ⟨[found.archHeaders], [], []⟩ := by
  constructor
  · simp only [verdict, headers, Bool.false_eq_true, if_false]
  · simp only [added, checked, headers, Bool.false_eq_true, if_false, LinkLine.append_empty]

/-- The headers alone are complete with the common headers. -/
theorem checks_of_headersOnly (headers : t.isDirectory (base.child "include") = true) :
    verdict t release base found true = .ok (some release) ∧
      added t release base found true =
        ⟨[found.archHeaders, base.child "include"], [], []⟩ := by
  constructor
  · simp only [verdict, headers, Bool.true_or, if_true]
  · simp only [added, checked, headers, if_true, LinkLine.append_def, List.singleton_append,
      List.append_nil]

/-- Without the libraries everything that was asked for comes down to the headers. -/
theorem checks_of_noLibraries (headers : t.isDirectory (base.child "include") = true)
    (libraries : t.isDirectory found.libPath = false) :
    verdict t release base found false =
        .error (.directoryNotFound component "libraries" found.libPath) ∧
      added t release base found false =
        ⟨[found.archHeaders, base.child "include"], [], []⟩ := by
  constructor
  · simp only [verdict, headers, libraries, Bool.or_self, Bool.false_eq_true, if_true, if_false]
  · simp only [added, checked, headers, libraries, Bool.false_eq_true, if_true, if_false,
      LinkLine.append_def, List.singleton_append, List.append_nil]

theorem checks_of_libraries (headers : t.isDirectory (base.child "include") = true)
    (linked : t.isDirectory found.libPath = true) :
    verdict t release base found false = .ok (some release) ∧
      added t release base found false =
        ⟨[found.archHeaders, base.child "include"], [found.libPath], libraries release⟩ := by
  constructor
  · simp only [verdict, headers, linked, Bool.or_true, if_true]
  · simp only [added, checked, headers, linked, Bool.false_eq_true, if_true, if_false,
      LinkLine.append_def, List.singleton_append, List.nil_append]

end

/-- The checks that come after the choice of a release fail for missing directories only. -/
theorem eq_directoryNotFound_of_verdict {t : FileTree} {release : PetscRelease} {base : Path}
    {found : Layout} {headersOnly : Bool} {e : Misconfiguration}
    (failed : verdict t release base found headersOnly = .error e) :
    ∃ what path, e = .directoryNotFound component what path := by
  unfold verdict at failed
  split at failed
  · split at failed
    · cases failed
    · cases failed
      exact ⟨_, _, rfl⟩
  · cases failed
    exact ⟨_, _, rfl⟩

theorem chosen?_of_choice {t : FileTree} {c : Context} {requested : String}
    {found : PetscRelease × Path} (chosen : choice t c requested = .ok found) :
    chosen? t c requested = some found := by
  unfold choice at chosen
  unfold chosen?
  cases named : PetscRelease.ofVersion? requested with
  | none =>
      rw [named] at chosen
      cases chosen
  | some wanted =>
      rw [named] at chosen
      rw [Option.bind_some]
      cases first : Chain.firstInstalled t c.installation wanted.chain.versions with
      | none =>
          simp only [first] at chosen
          cases chosen
      | some other =>
          simp only [first, Except.ok.injEq] at chosen
          rw [chosen]

/-- Choosing a release changes nothing, whether or not there is one to choose. -/
theorem ending_chooseRelease (t : FileTree) (requested : String) (c : Context) :
    (chooseRelease t requested c).result = choice t c requested ∧
      (chooseRelease t requested c).state = c := by
  cases chosen : choice t c requested with
  | ok found => exact succeeds_chooseRelease_iff.mpr ⟨chosen?_of_choice chosen, rfl⟩
  | error e =>
      unfold choice at chosen
      unfold chooseRelease
      cases named : PetscRelease.ofVersion? requested with
      | none =>
          rw [named] at chosen
          cases chosen
          exact ⟨rfl, rfl⟩
      | some wanted =>
          rw [named] at chosen
          cases first : Chain.firstInstalled t c.installation wanted.chain.versions with
          | some found =>
              simp only [first] at chosen
              cases chosen
          | none =>
              simp only [first] at chosen
              cases chosen
              have walked : (wanted.chain.installed t c.installation :
                  Action Misconfiguration Context _).Succeeds c none c :=
                Chain.succeeds_select_iff.mpr ⟨first.symm, rfl⟩
              have result := walked.result
              have state := walked.state
              unfold Context.installation at result state
              simp only [Action.bind_result, Action.bind_state, Action.state_apply, result, state]
              exact ⟨rfl, rfl⟩

/-- The last two checks decide about the result, and what they let pass is on the line. -/
theorem ending_addChecked (t : FileTree) (release : PetscRelease) (base : Path) (found : Layout)
    (headersOnly : Bool) (c : Context) :
    (addChecked t release base found headersOnly c).result =
        verdict t release base found headersOnly ∧
      (addChecked t release base found headersOnly c).state =
        { c with line := c.line ++ checked t release base found headersOnly } := by
  unfold addChecked verdict checked
  by_cases headers : t.isDirectory (base.child "include") = true
  · cases headersOnly with
    | true =>
        simp [headers, Action.bind_result, Action.bind_state, Context.addIncludes,
          LinkLine.addIncludes, LinkLine.append_def]
    | false =>
        by_cases linked : t.isDirectory found.libPath = true
        · simp [headers, linked, Action.bind_result, Action.bind_state, Context.addIncludes,
            LinkLine.addIncludes, LinkLine.append_def, Context.addLibPaths,
            LinkLine.addLibPaths, Context.addLibraries, LinkLine.addLibraries]
        · simp [headers, linked, Action.bind_result, Action.bind_state, Context.addIncludes,
            LinkLine.addIncludes, LinkLine.append_def]
  · simp [headers, Action.bind_result, Action.bind_state]

/-- The second half of a resolution, up to whichever check it fails at. -/
theorem ending_complete (t : FileTree) (release : PetscRelease) (base : Path) (found : Layout)
    (headersOnly : Bool) (c : Context) :
    (complete t release base found headersOnly c).result =
        verdict t release base found headersOnly ∧
      (complete t release base found headersOnly c).state =
        c.extended (bundled t found.commands c.profile.tools)
          (added t release base found headersOnly) := by
  unfold complete
  cases commands : found.commands with
  | none =>
      have last := ending_addChecked t release base found headersOnly
        (c.addIncludes [found.archHeaders])
      simp only [Action.bind_result, Action.bind_state, Action.update_apply]
      constructor
      · exact last.1
      · apply last.2.trans
        simp [bundled, Context.extended, added, Context.addIncludes, LinkLine.addIncludes,
          LinkLine.append_def]
  | some dir =>
      have looked : (useCommands t dir).Succeeds (c.addIncludes [found.archHeaders]) ()
          ((c.addIncludes [found.archHeaders]).extended
            (bundled t (some dir) c.profile.tools) LinkLine.empty) :=
        succeeds_useCommands_iff.mpr rfl
      have last := ending_addChecked t release base found headersOnly
        ((c.addIncludes [found.archHeaders]).extended
          (bundled t (some dir) c.profile.tools) LinkLine.empty)
      simp only [Action.bind_result, Action.bind_state, Action.update_apply]
      rw [looked.result, looked.state]
      constructor
      · exact last.1
      · apply last.2.trans
        simp [Context.extended, added, Context.addIncludes, LinkLine.addIncludes,
          LinkLine.append_def, LinkLine.empty]

theorem result_resolve {t : FileTree} {c : Context} (wanted : c.skipPetsc = false)
    (requested : String) (flavour : Flavour) (headersOnly : Bool) :
    (resolve t requested flavour headersOnly c).result =
      match located t c requested flavour with
      | .error e => .error e
      | .ok (release, base, found) => verdict t release base found headersOnly := by
  rcases ending_chooseRelease t requested c with ⟨result, state⟩
  rw [resolve_eq, Action.state_bind_apply]
  simp only [wanted, Bool.false_eq_true, if_false, Action.bind_result, result, state]
  unfold located
  cases choice t c requested with
  | error e => rfl
  | ok chosen =>
      simp only [Action.ofExcept_result, Action.ofExcept_state]
      cases layout t c.profile flavour chosen.1 chosen.2 with
      | error e => rfl
      | ok found => exact (ending_complete t chosen.1 chosen.2 found headersOnly c).1

theorem state_resolve {t : FileTree} {c : Context} (wanted : c.skipPetsc = false)
    (requested : String) (flavour : Flavour) (headersOnly : Bool) :
    (resolve t requested flavour headersOnly c).state =
      match located t c requested flavour with
      | .error _ => c
      | .ok (release, base, found) =>
          c.extended (bundled t found.commands c.profile.tools)
            (added t release base found headersOnly) := by
  rcases ending_chooseRelease t requested c with ⟨result, state⟩
  rw [resolve_eq, Action.state_bind_apply]
  simp only [wanted, Bool.false_eq_true, if_false, Action.bind_state, result, state]
  unfold located
  cases choice t c requested with
  | error e => rfl
  | ok chosen =>
      simp only [Action.ofExcept_result, Action.ofExcept_state]
      cases layout t c.profile flavour chosen.1 chosen.2 with
      | error e => rfl
      | ok found => exact (ending_complete t chosen.1 chosen.2 found headersOnly c).2

/-- Where PETSc is left to the platform, nothing happens. -/
theorem ending_resolve_of_skip {t : FileTree} {c : Context} (skipped : c.skipPetsc = true)
    (requested : String) (flavour : Flavour) (headersOnly : Bool) :
    (resolve t requested flavour headersOnly c).result = .ok none ∧
      (resolve t requested flavour headersOnly c).state = c :=
  succeeds_resolve_iff.mpr (Or.inl ⟨skipped, rfl, rfl⟩)

end Petsc

namespace Dealii

/-- What Deal.II has to find out about itself before it turns to PETSc: where it is and
which version it states. -/
def stated (t : FileTree) (c : Context) : Except Misconfiguration (Path × String) :=
  match c.profile.dealii with
  | none => .error (.notConfigured component)
  | some path =>
      match t.require (c.absolute path) component with
      | .error e => .error e
      | .ok () =>
          match statedVersion t (c.absolute path) with
          | .error e => .error e
          | .ok version => .ok (c.absolute path, version)

/-- A resolution of Deal.II is one of PETSc with an addition of its own behind it, which cannot
fail any more. -/
theorem ending_resolve (t : FileTree) (b : Build) (c : Context) :
    (resolve t b c).result =
        (match stated t c with
        | .error e => .error e
        | .ok (_, version) =>
            ((petsc t b (Text.startsWith "6." version) c).result).map (fun _ => ())) ∧
      (resolve t b c).state =
        (match stated t c with
        | .error _ => c
        | .ok (base, version) =>
            match petsc t b (Text.startsWith "6." version) c with
            | ⟨.error _, d, _⟩ => d
            | ⟨.ok _, d, _⟩ =>
                { d with line := d.line ++
                  contribution base (Text.startsWith "6." version) b.dealiiDebugging }) := by
  unfold resolve stated
  rw [Action.state_bind_apply]
  cases configured : c.profile.dealii with
  | none => exact ⟨rfl, rfl⟩
  | some path =>
      simp only [Action.ite_bind, ← petsc_eq]
      simp only [Action.bind_result, Action.bind_state, Action.ofExcept_result,
        Action.ofExcept_state, Action.note_apply]
      cases t.require (c.absolute path) component with
      | error e => exact ⟨rfl, rfl⟩
      | ok _ =>
          cases statedVersion t (c.absolute path) with
          | error e => exact ⟨rfl, rfl⟩
          | ok version =>
              simp only
              cases petsc t b (Text.startsWith "6." version) c with
              | mk result d notes =>
                  cases result with
                  | error e => exact ⟨rfl, rfl⟩
                  | ok release => exact ⟨rfl, rfl⟩

end Dealii
end HostLink
