import HostLink.Proofs.Resolution.Decision

namespace HostLink
namespace Petsc

/-!
# Flavours fall back on the usual build

An installation need not have a build of its own for every flavour.  The names that are tried for
a flavour end in those that are tried for debugging, so what serves debugging serves every
flavour, and it serves as the same release with the same common headers.

Release 2.2 tells two library directories apart by the flavour, and it takes the first that is
there without asking whether it is a directory.  So a file in the place of the preferred one hides
the other one.  Such an installation is *obstructed* for the flavour, and nothing else can keep a
flavour from an installation that serves debugging.
-/

/-- Release 2.2 has something in the place that the flavour prefers, and it is no directory. -/
def Obstructed (t : FileTree) (p : Profile) (flavour : Flavour) (release : PetscRelease)
    (base : Path) : Prop :=
  release = .v2_2 ∧ ∃ preferred, (layouts p flavour release base).head? = some preferred ∧
    t.present preferred.libPath = true ∧ t.isDirectory preferred.libPath = false

/-! ## Layouts that can be linked -/

theorem layouts_debug_subset (p : Profile) (flavour : Flavour) (release : PetscRelease)
    (base : Path) : layouts p .debug release base ⊆ layouts p flavour release base := by
  have names : p.archNames .debug ⊆ p.archNames flavour :=
    (p.archNames_debug_suffix flavour).subset
  have dirs : libDirs22 .debug ⊆ libDirs22 flavour := by
    cases flavour <;> decide
  cases release with
  | v2_2 => exact List.map_subset _ dirs
  | _ => exact List.map_subset _ names

/-- Release 2.2 has two layouts for every flavour. -/
theorem layouts_pair (p : Profile) (flavour : Flavour) (base : Path) :
    ∃ first second, layouts p flavour .v2_2 base = [first, second] := by
  cases flavour with
  | debug => exact ⟨_, _, rfl⟩
  | optimised => exact ⟨_, _, rfl⟩
  | profiling => exact ⟨_, _, rfl⟩
  | production => exact ⟨_, _, rfl⟩

/-- Of two layouts of release 2.2 the first that has an entry in the place of its libraries is
chosen. -/
theorem isChosen_pair_iff {t : FileTree} {first second found : Layout} :
    IsChosen t .v2_2 [first, second] found ↔
      (t.present first.libPath = true ∧ first = found) ∨
      (t.present first.libPath = false ∧ t.present second.libPath = true ∧ second = found) := by
  unfold IsChosen
  simp only [ne_eq, not_true_eq_false, false_and, or_false, List.find?_cons, List.find?_nil,
    hasLibraries]
  cases t.present first.libPath with
  | true => simp
  | false =>
      cases t.present second.libPath with
      | true => simp
      | false => simp

/-- Release 2.2 can be linked from either of its two places, unless something else hides it. -/
theorem chosen_links_pair_iff {t : FileTree} {p : Profile} {flavour : Flavour} {base : Path} :
    (∃ found, IsChosen t .v2_2 (layouts p flavour .v2_2 base) found ∧
        t.isDirectory found.libPath = true) ↔
      (∃ l ∈ layouts p flavour .v2_2 base, t.isDirectory l.libPath = true) ∧
        ¬ Obstructed t p flavour .v2_2 base := by
  rcases layouts_pair p flavour base with ⟨first, second, pair⟩
  -- Both sides become statements about the two places: what is there, and is it a directory?
  simp only [Obstructed, pair, isChosen_pair_iff, List.mem_cons, List.not_mem_nil, or_false,
    exists_eq_or_imp, exists_eq_left, List.head?_cons, Option.some.injEq, exists_eq_left',
    true_and]
  constructor
  · rintro ⟨found, ⟨_, rfl⟩ | ⟨absent, _, rfl⟩, directory⟩
    · exact ⟨Or.inl directory, fun hidden => by rw [hidden.2] at directory; cases directory⟩
    · exact ⟨Or.inr directory, fun hidden => by rw [hidden.1] at absent; cases absent⟩
  · rintro ⟨usable, clear⟩
    cases there : t.present first.libPath with
    | true =>
        refine ⟨first, Or.inl ⟨rfl, rfl⟩, ?_⟩
        cases directory : t.isDirectory first.libPath with
        | true => rfl
        | false => exact absurd ⟨there, directory⟩ clear
    | false =>
        rcases usable with directory | directory
        · rw [t.present_of_isDirectory directory] at there
          cases there
        · exact ⟨second, Or.inr ⟨rfl, t.present_of_isDirectory directory, rfl⟩, directory⟩

/-- The chosen layout can be linked exactly if some layout can and nothing hides it. -/
theorem chosen_links_iff {t : FileTree} {p : Profile} {flavour : Flavour}
    {release : PetscRelease} {base : Path} :
    (∃ found, IsChosen t release (layouts p flavour release base) found ∧
        t.isDirectory found.libPath = true) ↔
      (∃ l ∈ layouts p flavour release base, t.isDirectory l.libPath = true) ∧
        ¬ Obstructed t p flavour release base := by
  by_cases old : release = .v2_2
  · subst old
    exact chosen_links_pair_iff
  · -- The newer releases look for directories at once, so nothing can be in the way.
    have clear : ¬ Obstructed t p flavour release base := fun hidden => old hidden.1
    cases ending : layout t p flavour release base with
    | error e => exact absurd (layout_eq_error_iff.mp ending).1 old
    | ok found =>
        have chosen := layout_eq_ok_iff.mp ending
        rw [exists_isChosen_iff ending]
        constructor
        · intro directory
          exact ⟨⟨found, mem_of_isChosen chosen, directory⟩, clear⟩
        · rintro ⟨⟨l, listed, directory⟩, _⟩
          cases absent : t.isDirectory found.libPath with
          | true => rfl
          | false =>
              have lacking := (chosen_lacks_iff old).mp ⟨found, chosen, absent⟩
              rw [lacking l listed] at directory
              cases directory

/-! ## Flavours of one installation -/

section

variable {t : FileTree} {c : Context} {requested : String} {flavour : Flavour}
  {wanted release : PetscRelease} {base : Path}

/-- A release serves a flavour exactly if its common headers are there, some layout can be linked,
and nothing hides it. -/
theorem result_eq_ok_iff_of_isNewest (used : c.skipPetsc = false)
    (named : Text.leading 3 requested = wanted.name) (newest : IsNewest t c wanted release base)
    {outcome : Option PetscRelease} :
    (resolve t requested flavour false c).result = .ok outcome ↔
      outcome = some release ∧ t.isDirectory (base.child "include") = true ∧
        (∃ l ∈ layouts c.profile flavour release base, t.isDirectory l.libPath = true) ∧
        ¬ Obstructed t c.profile flavour release base := by
  rw [result_of_isNewest used named newest, ← chosen_links_iff]
  cases ending : layout t c.profile flavour release base with
  | error e =>
      constructor
      · intro impossible
        cases impossible
      · rintro ⟨_, _, found, chosen, _⟩
        have laidOut := layout_eq_ok_iff.mpr chosen
        rw [ending] at laidOut
        cases laidOut
  | ok found =>
      rw [exists_isChosen_iff ending]
      constructor
      · intro passed
        rcases verdict_eq_ok_iff.mp passed with ⟨headers, linked, same⟩
        exact ⟨same, headers, linked rfl⟩
      · rintro ⟨same, headers, linked⟩
        exact verdict_eq_ok_iff.mpr ⟨headers, fun _ => linked, same⟩

/-- What hides the libraries is refused for not being a directory. -/
theorem result_of_obstructed (used : c.skipPetsc = false)
    (named : Text.leading 3 requested = wanted.name) (newest : IsNewest t c wanted release base)
    (headers : t.isDirectory (base.child "include") = true)
    (hidden : Obstructed t c.profile flavour release base) :
    ∃ path, t.present path = true ∧ t.isDirectory path = false ∧
      (resolve t requested flavour false c).result =
        .error (.directoryNotFound component "libraries" path) := by
  rcases hidden with ⟨rfl, preferred, first, present, noDirectory⟩
  rcases layouts_pair c.profile flavour base with ⟨head, second, pair⟩
  have same : head = preferred := by
    rw [pair] at first
    exact Option.some.inj first
  subst same
  have chosen : IsChosen t .v2_2 (layouts c.profile flavour .v2_2 base) head := by
    rw [pair]
    exact isChosen_pair_iff.mpr (Or.inl ⟨present, rfl⟩)
  refine ⟨head.libPath, present, noDirectory, ?_⟩
  rw [result_of_isNewest used named newest, layout_eq_ok_iff.mpr chosen]
  exact (checks_of_noLibraries .v2_2 head headers noDirectory).1

/-- The common headers are those of the chosen release, and they come last. -/
theorem includePaths_of_isNewest (used : c.skipPetsc = false)
    (named : Text.leading 3 requested = wanted.name) (newest : IsNewest t c wanted release base)
    (served : (resolve t requested flavour false c).result = .ok (some release)) :
    ∃ headers, (resolve t requested flavour false c).state.line.includePaths =
      c.line.includePaths ++ [headers, base.child "include"] := by
  rcases state_of_isNewest used named newest served with ⟨_, found, _, left⟩
  refine ⟨found.archHeaders, ?_⟩
  rw [left]
  rfl

/-- A release serves every flavour from which nothing hides its libraries, always with the same
common headers, and it is refused to the others. -/
structure Serves (t : FileTree) (c : Context) (requested : String) (release : PetscRelease)
    (base : Path) : Prop where
  served : ∀ flavour, ¬ Obstructed t c.profile flavour release base →
    (resolve t requested flavour false c).result = .ok (some release) ∧
    ∃ headers, (resolve t requested flavour false c).state.line.includePaths =
      c.line.includePaths ++ [headers, base.child "include"]
  refused : ∀ flavour, Obstructed t c.profile flavour release base →
    ∃ path, t.present path = true ∧ t.isDirectory path = false ∧
      (resolve t requested flavour false c).result =
        .error (.directoryNotFound component "libraries" path)

/-- Where debugging finds a layout that can be linked, every flavour does. -/
theorem serves_of_usable (used : c.skipPetsc = false)
    (named : Text.leading 3 requested = wanted.name) (newest : IsNewest t c wanted release base)
    (headers : t.isDirectory (base.child "include") = true)
    (usable : ∃ l ∈ layouts c.profile .debug release base, t.isDirectory l.libPath = true) :
    Serves t c requested release base where
  served flavour clear := by
    rcases usable with ⟨l, listed, directory⟩
    have own : ∃ l ∈ layouts c.profile flavour release base, t.isDirectory l.libPath = true :=
      ⟨l, layouts_debug_subset c.profile flavour release base listed, directory⟩
    have served := (result_eq_ok_iff_of_isNewest used named newest).mpr
      ⟨rfl, headers, own, clear⟩
    exact ⟨served, includePaths_of_isNewest used named newest served⟩
  refused _ hidden := result_of_obstructed used named newest headers hidden

end

/-- What serves debugging serves every flavour from which nothing hides its libraries, as the
same release and with the same common headers.  With these headers in place, a usual or an
optimised build that can be linked is all that a flavour needs. -/
theorem flavours_fall_back (t : FileTree) (c : Context) (requested : String) :
    (∀ outcome, (resolve t requested .debug false c).result = .ok outcome →
      (c.skipPetsc = true ∧ outcome = none ∧
        ∀ flavour, (resolve t requested flavour false c).result = .ok none) ∨
      (c.skipPetsc = false ∧ ∃ release base, outcome = some release ∧
        InstalledAt t c release base ∧ Serves t c requested release base)) ∧
    (∀ (wanted release : PetscRelease) (base : Path), c.skipPetsc = false →
      Text.leading 3 requested = wanted.name → IsNewest t c wanted release base →
      t.isDirectory (base.child "include") = true →
      (∃ l ∈ layouts c.profile .debug release base, t.isDirectory l.libPath = true) →
      Serves t c requested release base) := by
  constructor
  · intro outcome served
    rcases succeeds_resolve_iff.mp (Action.Succeeds.of_result served) with
      ⟨skipped, same, _⟩ | ⟨used, release, base, _, chosen, _⟩
    · refine Or.inl ⟨skipped, same, ?_⟩
      intro flavour
      exact (ending_resolve_of_skip skipped requested flavour false).1
    · rcases chosen?_eq_some_iff.mp chosen with ⟨wanted, named, newest⟩
      rcases (result_eq_ok_iff_of_isNewest used named newest).mp served with
        ⟨same, headers, usable, _⟩
      exact Or.inr ⟨used, release, base, same, newest.installed,
        serves_of_usable used named newest headers usable⟩
  · intro wanted release base used named newest headers usable
    exact serves_of_usable used named newest headers usable

/-! Release 2.2 with a file in the place of its optimised libraries. -/

def hiddenLibraries : Context :=
  Context.start { Profile.plain with petsc22 := some ⟨"/petsc"⟩ } ⟨"/p"⟩ false

def hiddenTree : FileTree :=
  ((FileTree.empty.makeDirectories? [] ["petsc", "include"]).bind (fun t =>
    (t.makeDirectories? [] ["petsc", "lib", "libg_c++", "linux-gnu"]).bind (fun t =>
      t.putFile? ["petsc", "lib", "libO_c++", "linux-gnu"] [] false))).getD FileTree.empty

/-- What serves debugging need not serve the optimised flavour. -/
theorem not_forall_flavours_served :
    ¬ ∀ (t : FileTree) (c : Context) (requested : String) (release : PetscRelease),
      (resolve t requested .debug false c).result = .ok (some release) →
      ∀ flavour, (resolve t requested flavour false c).result = .ok (some release) := by
  intro served
  have linked : (resolve hiddenTree "2.2" .debug false hiddenLibraries).result =
      .ok (some .v2_2) := rfl
  have optimised := served hiddenTree hiddenLibraries "2.2" .v2_2 linked .optimised
  have failed : ∃ e, (resolve hiddenTree "2.2" .optimised false hiddenLibraries).result =
      .error e := ⟨_, rfl⟩
  rcases failed with ⟨e, failed⟩
  rw [optimised] at failed
  cases failed

/-- The file is in the way of the optimised flavour, and not in that of profiling. -/
theorem flavours_fall_back_hiddenLibraries :
    (∃ path, (resolve hiddenTree "2.2" .optimised false hiddenLibraries).result =
      .error (.directoryNotFound component "libraries" path)) ∧
    (resolve hiddenTree "2.2" .profiling false hiddenLibraries).result = .ok (some .v2_2) := by
  have linked : (resolve hiddenTree "2.2" .debug false hiddenLibraries).result =
      .ok (some .v2_2) := rfl
  rcases (flavours_fall_back hiddenTree hiddenLibraries "2.2").1 _ linked with
    ⟨skipped, _⟩ | ⟨_, release, base, same, installed, serves⟩
  · cases skipped
  · cases same
    cases installed.1
    refine ⟨?_, ?_⟩
    · have hidden : Obstructed hiddenTree hiddenLibraries.profile .optimised .v2_2
          (hiddenLibraries.absolute ⟨"/petsc"⟩) := ⟨rfl, _, rfl, by decide, by decide⟩
      rcases serves.refused .optimised hidden with ⟨path, _, _, failed⟩
      exact ⟨path, failed⟩
    · have clear : ¬ Obstructed hiddenTree hiddenLibraries.profile .profiling .v2_2
          (hiddenLibraries.absolute ⟨"/petsc"⟩) := by
        rintro ⟨_, preferred, first, _, noDirectory⟩
        cases first
        revert noDirectory
        decide
      exact (serves.served .profiling clear).1

end Petsc
end HostLink
