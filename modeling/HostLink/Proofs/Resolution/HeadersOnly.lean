import HostLink.Proofs.Resolution.Growth

namespace HostLink
namespace Petsc

/-!
# Headers alone and everything

Deal.II 6 is compiled against the headers of PETSc without linking it, and the headers must be
those of the PETSc that would have been linked.  So two resolutions are compared here that start
from the same context, one of the headers alone and one of everything.

Both choose the same release and the same layout, since the choice does not look at what was
asked for.  The library directory takes part in the choice of the layout in either case, and
only its last check belongs to the second resolution alone.  Three pairs of endings are left.
-/

/-- The endings of a resolution of the headers alone and of one of everything, both from the
context `c`. -/
inductive Paired (t : FileTree) (c : Context) :
    Outcome Misconfiguration Context (Option PetscRelease) →
    Outcome Misconfiguration Context (Option PetscRelease) → Prop
  /-- What the headers need is missing, and this is missed in both. -/
  | refused {headers full : Outcome Misconfiguration Context (Option PetscRelease)}
      {e : Misconfiguration} (headersResult : headers.result = .error e)
      (fullResult : full.result = .error e) (same : full.state = headers.state) :
      Paired t c headers full
  /-- The headers are there, and the libraries are not. -/
  | unlinked {headers full : Outcome Misconfiguration Context (Option PetscRelease)}
      {outcome : Option PetscRelease} {path : Path} (headersResult : headers.result = .ok outcome)
      (absent : t.isDirectory path = false)
      (fullResult : full.result = .error (.directoryNotFound component "libraries" path))
      (same : full.state = headers.state) : Paired t c headers full
  /-- Both succeed, and the headers alone have left nothing for the linker. -/
  | linked {headers full : Outcome Misconfiguration Context (Option PetscRelease)}
      {outcome : Option PetscRelease} (headersResult : headers.result = .ok outcome)
      (fullResult : full.result = .ok outcome)
      (includePaths : headers.state.line.includePaths = full.state.line.includePaths)
      (profile : headers.state.profile = full.state.profile)
      (unlinked : c.SameLinks headers.state) : Paired t c headers full

/-- With a layout chosen, the endings are told by the two directories that are checked last. -/
theorem paired_of_located {t : FileTree} {c : Context} {requested : String} {flavour : Flavour}
    {release : PetscRelease} {base : Path} {found : Layout} (used : c.skipPetsc = false)
    (place : located t c requested flavour = .ok (release, base, found)) :
    Paired t c (resolve t requested flavour true c) (resolve t requested flavour false c) := by
  have result : ∀ headersOnly, (resolve t requested flavour headersOnly c).result =
      verdict t release base found headersOnly := by
    intro headersOnly
    rw [result_resolve used, place]
  have state : ∀ headersOnly, (resolve t requested flavour headersOnly c).state =
      c.extended (bundled t found.commands c.profile.tools)
        (added t release base found headersOnly) := by
    intro headersOnly
    rw [state_resolve used, place]
  cases headers : t.isDirectory (base.child "include") with
  | false =>
      have ending := checks_of_noHeaders release found headers
      refine .refused ((result true).trans (ending true).1) ((result false).trans (ending false).1) ?_
      rw [state, state, (ending true).2, (ending false).2]
  | true =>
      have alone := checks_of_headersOnly release found headers
      cases linked : t.isDirectory found.libPath with
      | false =>
          have both := checks_of_noLibraries release found headers linked
          refine .unlinked ((result true).trans alone.1) linked ((result false).trans both.1) ?_
          rw [state, state, alone.2, both.2]
      | true =>
          have both := checks_of_libraries release found headers linked
          refine .linked ((result true).trans alone.1) ((result false).trans both.1) ?_ ?_ ?_
          · rw [state, state, alone.2, both.2]
            rfl
          · rw [state, state]
            rfl
          · exact links_resolve_of_headersOnly t requested flavour c

theorem paired_resolve (t : FileTree) (c : Context) (requested : String) (flavour : Flavour) :
    Paired t c (resolve t requested flavour true c) (resolve t requested flavour false c) := by
  cases skipped : c.skipPetsc with
  | true =>
      have alone := ending_resolve_of_skip (t := t) skipped requested flavour true
      have both := ending_resolve_of_skip (t := t) skipped requested flavour false
      refine .linked alone.1 both.1 ?_ ?_ (links_resolve_of_headersOnly t requested flavour c)
      · rw [alone.2, both.2]
      · rw [alone.2, both.2]
  | false =>
      cases place : located t c requested flavour with
      | error e =>
          refine .refused (e := e) ?_ ?_ ?_
          · rw [result_resolve skipped, place]
          · rw [result_resolve skipped, place]
          · rw [state_resolve skipped, state_resolve skipped, place]
      | ok found => exact paired_of_located skipped place

/-- The headers alone and everything agree.  If everything is found, the headers alone are the
same release, the same header directories and the same tools, with nothing for the linker.  If
only the headers alone are found, it is the library directory that is missing.  If not even
these are found, both fail for the same cause and leave the same. -/
theorem headersOnly_agrees (t : FileTree) (c : Context) (requested : String) (flavour : Flavour) :
    (∀ outcome, (resolve t requested flavour false c).result = .ok outcome →
      (resolve t requested flavour true c).result = .ok outcome ∧
      (resolve t requested flavour true c).state.line.includePaths =
        (resolve t requested flavour false c).state.line.includePaths ∧
      (resolve t requested flavour true c).state.profile =
        (resolve t requested flavour false c).state.profile ∧
      (resolve t requested flavour true c).state.line.libPaths = c.line.libPaths ∧
      (resolve t requested flavour true c).state.line.libraries = c.line.libraries) ∧
    (∀ outcome e, (resolve t requested flavour true c).result = .ok outcome →
      (resolve t requested flavour false c).result = .error e →
      ∃ path, e = .directoryNotFound component "libraries" path ∧ t.isDirectory path = false ∧
        (resolve t requested flavour false c).state =
          (resolve t requested flavour true c).state) ∧
    (∀ e, (resolve t requested flavour true c).result = .error e →
      (resolve t requested flavour false c).result = .error e ∧
      (resolve t requested flavour false c).state =
        (resolve t requested flavour true c).state) := by
  cases paired_resolve t c requested flavour with
  | refused headersResult fullResult same =>
      simp only [headersResult, fullResult, same, reduceCtorEq, false_imp_iff, implies_true,
        Except.error.injEq, and_true, imp_self]
  | unlinked headersResult absent fullResult same =>
      simp only [headersResult, fullResult, same, reduceCtorEq, false_imp_iff, implies_true,
        Except.error.injEq, true_and, and_true]
      intro outcome e _ cause
      exact ⟨_, cause.symm, absent⟩
  | linked headersResult fullResult includePaths profile unlinked =>
      simp only [headersResult, fullResult, reduceCtorEq, false_imp_iff, implies_true, and_true]
      intro outcome same
      exact ⟨same, includePaths, profile, unlinked⟩

/-! An installation of release 2.3 without libraries, and one with them. -/

def olderInstalled : Context :=
  Context.start { Profile.plain with petsc23 := some ⟨"/petsc"⟩ } ⟨"/p"⟩ false

def unlinkedTree : FileTree :=
  (FileTree.empty.makeDirectories? [] ["petsc", "include"]).getD FileTree.empty

def linkedTree : FileTree :=
  (unlinkedTree.makeDirectories? [] ["petsc", "lib", "linux-gnu"]).getD FileTree.empty

/-- The headers of both are found, and the libraries of the second only. -/
theorem headersOnly_agrees_olderInstalled :
    (∃ path, (resolve unlinkedTree "3.1" .debug false olderInstalled).result =
        .error (.directoryNotFound component "libraries" path) ∧
      unlinkedTree.isDirectory path = false) ∧
    (resolve linkedTree "3.1" .debug true olderInstalled).state.line.includePaths =
      (resolve linkedTree "3.1" .debug false olderInstalled).state.line.includePaths := by
  have found : (resolve unlinkedTree "3.1" .debug true olderInstalled).result =
      .ok (some .v2_3) := rfl
  have failed : ∃ e, (resolve unlinkedTree "3.1" .debug false olderInstalled).result =
      .error e := ⟨_, rfl⟩
  have linked : (resolve linkedTree "3.1" .debug false olderInstalled).result =
      .ok (some .v2_3) := rfl
  rcases failed with ⟨e, failed⟩
  rcases (headersOnly_agrees unlinkedTree olderInstalled "3.1" .debug).2.1 _ e found failed with
    ⟨path, same, absent, _⟩
  rw [same] at failed
  have agrees := (headersOnly_agrees linkedTree olderInstalled "3.1" .debug).1 _ linked
  exact ⟨⟨path, failed, absent⟩, agrees.2.1⟩

end Petsc
end HostLink
