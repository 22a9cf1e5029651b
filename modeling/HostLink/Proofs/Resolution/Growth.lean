import HostLink.Proofs.Resolution.Outcome

namespace HostLink

/-!
# Link lines only grow

Compilers and linkers take the first match, so what stands on a link line must not be moved or
dropped by what is resolved later.  A run is any sequence of resolutions on one context, and a
resolution may fail and leave part of its additions behind.

`Context.Extends` says what can have happened to a context: each list has grown at its end,
and of the profile nothing but two tools is new.  It is reflexive and transitive, so a run has
the property if each resolution has it, and `Petsc.state_resolve` and `Dealii.ending_resolve`
name the state of every resolution, failed or not.
-/

/-- Causes of failure that show before a release of PETSc is chosen. -/
def Misconfiguration.precedesChoice : Misconfiguration → Bool
  | .unknownVersion _ _ => true
  | .missingDependency _ _ _ => true
  | .notConfigured _ => true
  | .pathNotFound _ _ => true
  | .unreadable _ _ => true
  | _ => false

namespace Context

/-- One context comes from another by additions behind its link line.  Of the profile only
the commands for parallel programs can be others. -/
structure Extends (c c' : Context) : Prop where
  includePaths : c.line.includePaths <+: c'.line.includePaths
  libPaths : c.line.libPaths <+: c'.line.libPaths
  libraries : c.line.libraries <+: c'.line.libraries
  root : c'.root = c.root
  skipPetsc : c'.skipPetsc = c.skipPetsc
  profile : c'.profile = { c.profile with tools := c'.profile.tools }
  tools : ∀ name, name ≠ "mpicxx" → name ≠ "mpirun" →
    c'.profile.tools.find? name = c.profile.tools.find? name

/-- Nothing is new for the linker. -/
def SameLinks (c c' : Context) : Prop :=
  c'.line.libPaths = c.line.libPaths ∧ c'.line.libraries = c.line.libraries

namespace Extends

variable {c c' c'' : Context}

theorem refl (c : Context) : c.Extends c where
  includePaths := List.prefix_refl _
  libPaths := List.prefix_refl _
  libraries := List.prefix_refl _
  root := rfl
  skipPetsc := rfl
  profile := rfl
  tools _ _ _ := rfl

theorem trans (first : c.Extends c') (second : c'.Extends c'') : c.Extends c'' where
  includePaths := first.includePaths.trans second.includePaths
  libPaths := first.libPaths.trans second.libPaths
  libraries := first.libraries.trans second.libraries
  root := second.root.trans first.root
  skipPetsc := second.skipPetsc.trans first.skipPetsc
  profile := by
    have later := second.profile
    rw [first.profile] at later
    exact later
  tools name compiler starter :=
    (second.tools name compiler starter).trans (first.tools name compiler starter)

/-- More behind the link line, and the rest as it was. -/
theorem of_append (c : Context) (more : LinkLine) : c.Extends { c with line := c.line ++ more } where
  includePaths := List.prefix_append _ _
  libPaths := List.prefix_append _ _
  libraries := List.prefix_append _ _
  root := rfl
  skipPetsc := rfl
  profile := rfl
  tools _ _ _ := rfl

end Extends
end Context

namespace Petsc

/-- The command that an installation brings along for a tool, if it does. -/
def bundledCommand? (t : FileTree) (commands : Option Path) (tool : String) : Option String :=
  commands.bind (fun dir =>
    if tool ∈ ["mpicxx", "mpirun"] ∧ t.present (dir.child tool) = true then
      some (dir.child tool).text
    else none)

/-- Of the tools that are looked for, those that are there are taken over. -/
theorem find?_foldl_commands (t : FileTree) (dir : Path) (names : List String) (tools : Tools)
    (tool : String) :
    (names.foldl (fun tools name =>
        if t.present (dir.child name) then tools.insert name (dir.child name).text else tools)
      tools).find? tool =
      (if tool ∈ names ∧ t.present (dir.child tool) = true then some (dir.child tool).text
        else none).or (tools.find? tool) := by
  induction names generalizing tools with
  | nil => simp
  | cons name names inductionHypothesis =>
      rw [List.foldl_cons, inductionHypothesis]
      by_cases same : name = tool
      · subst same
        by_cases present : t.present (dir.child name) = true
        · by_cases again : name ∈ names <;> simp [present, again]
        · simp [present]
      · have other : (if t.present (dir.child name) then
            tools.insert name (dir.child name).text else tools).find? tool = tools.find? tool := by
          split
          · exact OrderedMap.find?_insert_of_ne _ same _
          · rfl
        simp only [other, List.mem_cons, Ne.symm same, false_or]

/-- A command that comes along is preferred to the one of the profile. -/
theorem find?_bundled (t : FileTree) (commands : Option Path) (tools : Tools) (tool : String) :
    (bundled t commands tools).find? tool =
      (bundledCommand? t commands tool).or (tools.find? tool) := by
  cases commands with
  | none => rfl
  | some dir => exact find?_foldl_commands t dir ["mpicxx", "mpirun"] tools tool

/-- The commands that an installation brings along displace no other tool. -/
theorem find?_bundled_of_ne (t : FileTree) (commands : Option Path) (tools : Tools)
    {name : String} (compiler : name ≠ "mpicxx") (starter : name ≠ "mpirun") :
    (bundled t commands tools).find? name = tools.find? name := by
  have other : bundledCommand? t commands name = none := by
    cases commands with
    | none => rfl
    | some dir => simp [bundledCommand?, compiler, starter]
  rw [find?_bundled, other, Option.none_or]

theorem extends_extended (c : Context) (t : FileTree) (commands : Option Path)
    (more : LinkLine) : c.Extends (c.extended (bundled t commands c.profile.tools) more) where
  includePaths := List.prefix_append _ _
  libPaths := List.prefix_append _ _
  libraries := List.prefix_append _ _
  root := rfl
  skipPetsc := rfl
  profile := rfl
  tools _ compiler starter := find?_bundled_of_ne t commands c.profile.tools compiler starter

theorem extends_resolve (t : FileTree) (requested : String) (flavour : Flavour)
    (headersOnly : Bool) (c : Context) :
    c.Extends (resolve t requested flavour headersOnly c).state := by
  cases skipped : c.skipPetsc with
  | true =>
      rw [(ending_resolve_of_skip skipped requested flavour headersOnly).2]
      exact Context.Extends.refl c
  | false =>
      rw [state_resolve skipped]
      cases located t c requested flavour with
      | error e => exact Context.Extends.refl c
      | ok place => exact extends_extended c t place.2.2.commands _

/-- Directories and names for the linker come last, after every check. -/
theorem links_added_of_error {t : FileTree} {release : PetscRelease} {base : Path}
    {found : Layout} {headersOnly : Bool} {e : Misconfiguration}
    (failed : verdict t release base found headersOnly = .error e) :
    (added t release base found headersOnly).libPaths = [] ∧
      (added t release base found headersOnly).libraries = [] := by
  unfold verdict at failed
  unfold added checked
  by_cases headers : t.isDirectory (base.child "include") = true
  · cases headersOnly with
    | true => simp [headers] at failed
    | false =>
        by_cases linked : t.isDirectory found.libPath = true
        · simp [headers, linked] at failed
        · simp [headers, linked, LinkLine.append_def]
  · simp [headers, LinkLine.append_def, LinkLine.empty]

theorem links_added_of_headersOnly (t : FileTree) (release : PetscRelease) (base : Path)
    (found : Layout) :
    (added t release base found true).libPaths = [] ∧
      (added t release base found true).libraries = [] := by
  cases headers : t.isDirectory (base.child "include") with
  | false =>
      rw [(checks_of_noHeaders release found headers true).2]
      exact ⟨rfl, rfl⟩
  | true =>
      rw [(checks_of_headersOnly release found headers).2]
      exact ⟨rfl, rfl⟩

/-- A failed resolution has given nothing to the linker, and if it failed before a release was
chosen, it has done nothing at all. -/
theorem links_resolve_of_error {t : FileTree} {requested : String} {flavour : Flavour}
    {headersOnly : Bool} {c : Context} {e : Misconfiguration}
    (failed : (resolve t requested flavour headersOnly c).result = .error e) :
    c.SameLinks (resolve t requested flavour headersOnly c).state ∧
      (e.precedesChoice = true → (resolve t requested flavour headersOnly c).state = c) := by
  cases skipped : c.skipPetsc with
  | true =>
      rw [(ending_resolve_of_skip skipped requested flavour headersOnly).1] at failed
      cases failed
  | false =>
      rw [result_resolve skipped] at failed
      rw [state_resolve skipped]
      cases place : located t c requested flavour with
      | error cause => exact ⟨⟨rfl, rfl⟩, fun _ => rfl⟩
      | ok found =>
          simp only [place] at failed
          have added := links_added_of_error failed
          constructor
          · constructor
            · change c.line.libPaths ++ _ = _
              rw [added.1, List.append_nil]
            · change c.line.libraries ++ _ = _
              rw [added.2, List.append_nil]
          · intro early
            rcases eq_directoryNotFound_of_verdict failed with ⟨what, path, rfl⟩
            cases early

/-- Headers alone are nothing for the linker, whether or not all of them are found. -/
theorem links_resolve_of_headersOnly (t : FileTree) (requested : String) (flavour : Flavour)
    (c : Context) : c.SameLinks (resolve t requested flavour true c).state := by
  cases skipped : c.skipPetsc with
  | true =>
      rw [(ending_resolve_of_skip skipped requested flavour true).2]
      exact ⟨rfl, rfl⟩
  | false =>
      rw [state_resolve skipped]
      cases located t c requested flavour with
      | error e => exact ⟨rfl, rfl⟩
      | ok place =>
          have added := links_added_of_headersOnly t place.1 place.2.1 place.2.2
          constructor
          · change c.line.libPaths ++ _ = _
            rw [added.1, List.append_nil]
          · change c.line.libraries ++ _ = _
            rw [added.2, List.append_nil]

end Petsc

namespace Dealii

theorem extends_resolve (t : FileTree) (b : Build) (c : Context) :
    c.Extends (resolve t b c).state := by
  rw [(ending_resolve t b c).2]
  cases stated t c with
  | error e => exact Context.Extends.refl c
  | ok found =>
      have inner : c.Extends (petsc t b (Text.startsWith "6." found.2) c).state :=
        Petsc.extends_resolve t _ _ _ c
      cases ending : petsc t b (Text.startsWith "6." found.2) c with
      | mk result d notes =>
          rw [ending] at inner
          cases result with
          | error e => simpa only [ending] using inner
          | ok release =>
              simp only [ending]
              exact inner.trans (Context.Extends.of_append d _)

/-- Deal.II adds its own part at the very end, so it fails only where its PETSc does, or before
that. -/
theorem links_resolve_of_error {t : FileTree} {b : Build} {c : Context} {e : Misconfiguration}
    (failed : (resolve t b c).result = .error e) :
    c.SameLinks (resolve t b c).state ∧
      (e.precedesChoice = true → (resolve t b c).state = c) := by
  rw [(ending_resolve t b c).1] at failed
  rw [(ending_resolve t b c).2]
  cases known : stated t c with
  | error cause => exact ⟨⟨rfl, rfl⟩, fun _ => rfl⟩
  | ok found =>
      simp only [known] at failed
      cases ending : petsc t b (Text.startsWith "6." found.2) c with
      | mk result d notes =>
          rw [ending] at failed
          cases result with
          | ok release => cases failed
          | error cause =>
              have same : cause = e := Except.error.inj failed
              have inner := Petsc.links_resolve_of_error (c := c) (e := e)
                ((congrArg Outcome.result ending).trans (congrArg Except.error same))
              have left : (petsc t b (Text.startsWith "6." found.2) c).state = d :=
                congrArg Outcome.state ending
              unfold petsc at left
              rw [left] at inner
              simpa only [ending] using inner

end Dealii

namespace Context

/-- A resolution that is asked for. -/
inductive Call where
  | petsc (requested : String) (flavour : Flavour) (headersOnly : Bool)
  | dealii (b : Build)

/-- The resolution of a call, whose success is all that is told of it. -/
def Call.action (t : FileTree) : Call → Action Misconfiguration Context Unit
  | .petsc requested flavour headersOnly => do
      let _ ← Petsc.resolve t requested flavour headersOnly
      return ()
  | .dealii b => Dealii.resolve t b

/-- The context after a run of resolutions, each of which may fail, and each of which sees the
tree as it is by then. -/
def runAll (c : Context) (calls : List (FileTree × Call)) : Context :=
  calls.foldl (fun c call => (call.2.action call.1 c).state) c

theorem extends_action (t : FileTree) (call : Call) (c : Context) :
    c.Extends (call.action t c).state := by
  cases call with
  | petsc requested flavour headersOnly =>
      unfold Call.action
      rw [Action.bind_state]
      cases (Petsc.resolve t requested flavour headersOnly c).result with
      | error e => exact Petsc.extends_resolve t requested flavour headersOnly c
      | ok release => exact Petsc.extends_resolve t requested flavour headersOnly c
  | dealii b => exact Dealii.extends_resolve t b c

theorem links_action_of_error {t : FileTree} {call : Call} {c : Context} {e : Misconfiguration}
    (failed : (call.action t c).result = .error e) :
    c.SameLinks (call.action t c).state ∧
      (e.precedesChoice = true → (call.action t c).state = c) := by
  cases call with
  | petsc requested flavour headersOnly =>
      unfold Call.action at *
      rw [Action.bind_result] at failed
      rw [Action.bind_state]
      cases ending : (Petsc.resolve t requested flavour headersOnly c).result with
      | ok release =>
          rw [ending] at failed
          cases failed
      | error cause =>
          rw [ending] at failed
          cases failed
          exact Petsc.links_resolve_of_error ending
  | dealii b => exact Dealii.links_resolve_of_error failed

theorem links_action_of_headersOnly (t : FileTree) (requested : String) (flavour : Flavour)
    (c : Context) : c.SameLinks ((Call.petsc requested flavour true).action t c).state := by
  have inner := Petsc.links_resolve_of_headersOnly t requested flavour c
  unfold Call.action
  rw [Action.bind_state]
  cases (Petsc.resolve t requested flavour true c).result with
  | error e => exact inner
  | ok release => exact inner

theorem extends_runAll (c : Context) (calls : List (FileTree × Call)) :
    c.Extends (runAll c calls) := by
  induction calls generalizing c with
  | nil => exact Extends.refl c
  | cons call calls inductionHypothesis =>
      have first := extends_action call.1 call.2 c
      exact first.trans (inductionHypothesis (call.2.action call.1 c).state)

/-- Over a run of resolutions every list grows at its end and only there.  A call after any run
that fails gives nothing to the linker, nor does one for headers alone, and a call that fails
before a release of PETSc is chosen changes nothing. -/
theorem runAll_grows (c : Context) (calls : List (FileTree × Call)) :
    c.Extends (runAll c calls) ∧
      ∀ (t : FileTree) (call : Call),
        (∀ e, (call.action t (runAll c calls)).result = .error e →
          (runAll c calls).SameLinks (call.action t (runAll c calls)).state ∧
          (e.precedesChoice = true →
            (call.action t (runAll c calls)).state = runAll c calls)) ∧
        ∀ requested flavour, call = .petsc requested flavour true →
          (runAll c calls).SameLinks (call.action t (runAll c calls)).state := by
  refine ⟨extends_runAll c calls, ?_⟩
  intro t call
  constructor
  · intro e failed
    exact links_action_of_error failed
  · intro requested flavour same
    subst same
    exact links_action_of_headersOnly t requested flavour _

/-! An installation of PETSc without its common headers, and no Deal.II. -/

def headerless : Context :=
  start { Profile.plain with petsc23 := some ⟨"/petsc"⟩ } ⟨"/p"⟩ false

def headerlessTree : FileTree :=
  (FileTree.empty.makeDirectories? [] ["petsc", "lib", "linux-gnu"]).getD FileTree.empty

/-- The headers of the build stay behind when the resolution fails at the common ones, and
Deal.II, which is not configured, then adds nothing. -/
theorem runAll_grows_headerless :
    let after := runAll headerless [(headerlessTree, .petsc "2.3" .debug false)]
    after.line = ⟨[⟨"/petsc/bmake/linux-gnu"⟩], [], []⟩ ∧ headerless.Extends after ∧
      ((Call.dealii Build.plain).action headerlessTree after).state = after := by
  intro after
  rcases runAll_grows headerless [(headerlessTree, .petsc "2.3" .debug false)] with ⟨grows, next⟩
  have fails : ((Call.dealii Build.plain).action headerlessTree after).result =
      .error (.notConfigured Dealii.component) := rfl
  have stays := (next headerlessTree (.dealii Build.plain)).1 _ fails
  exact ⟨rfl, grows, stays.2 rfl⟩

end Context
end HostLink
