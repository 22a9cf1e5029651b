import HostLink.Proofs.Resolution.Outcome

namespace HostLink

/-!
# How a request for PETSc is decided

A request names a release, and the newest release that is installed and not newer than that
is used.  This choice is final: whatever its installation lacks is an error of its own.  The
parts of an installation come together, since the headers and the libraries of one build are
one entry in a list of layouts, and the first layout whose libraries are there is taken.
-/

namespace PetscRelease

/-- The place of a release in the series, from the oldest on. -/
def rank : PetscRelease → Nat
  | .v2_2 => 0
  | .v2_3 => 1
  | .v3_0 => 2
  | .v3_1 => 3

/-- A release and all older ones, newest first. -/
def andOlder (r : PetscRelease) : List PetscRelease :=
  newestFirst.versions.filter (fun v => v.rank ≤ r.rank)

theorem versions_chain (r : PetscRelease) : r.chain.versions = r.andOlder := by
  cases r <;> rfl

theorem mem_andOlder {r v : PetscRelease} : v ∈ r.andOlder ↔ v.rank ≤ r.rank := by
  have listed : v ∈ newestFirst.versions := by cases v <;> decide
  simp only [andOlder, List.mem_filter, listed, true_and, decide_eq_true_eq]

theorem pairwise_andOlder (r : PetscRelease) :
    r.andOlder.Pairwise (fun v w => w.rank < v.rank) := by
  have all : newestFirst.versions.Pairwise (fun v w => w.rank < v.rank) := by decide
  exact all.filter _

theorem name_injective {r s : PetscRelease} (same : r.name = s.name) : r = s := by
  have found := ofVersion?_name r
  rw [same, ofVersion?_name] at found
  exact (Option.some.inj found).symm

theorem ofVersion?_eq_some_iff {version : String} {r : PetscRelease} :
    ofVersion? version = some r ↔ Text.leading 3 version = r.name := by
  constructor
  · intro found
    unfold ofVersion? at found
    split at found
    all_goals
      cases found
      try assumption
  · intro named
    unfold ofVersion?
    rw [named]
    cases r <;> rfl

end PetscRelease

namespace Chain

variable {ν : Type} {t : FileTree} {installation : ν → Option Path}

theorem firstInstalled_eq_none_iff {versions : List ν} :
    firstInstalled t installation versions = none ↔
      ∀ v ∈ versions, ∀ path, installation v = some path → t.isDirectory path = false := by
  unfold firstInstalled
  rw [List.findSome?_eq_none_iff]
  apply forall₂_congr
  intro v _
  cases installation v <;> simp

/-- The version found is installed, and none of those before it is. -/
theorem firstInstalled_eq_some_iff {versions : List ν} {v : ν} {path : Path} :
    firstInstalled t installation versions = some (v, path) ↔
      installation v = some path ∧ t.isDirectory path = true ∧
      ∃ before after, versions = before ++ v :: after ∧
        firstInstalled t installation before = none := by
  unfold firstInstalled
  rw [List.findSome?_eq_some_iff]
  constructor
  · rintro ⟨before, w, after, split, found, none⟩
    rcases Option.map_eq_some_iff.mp found with ⟨other, installed, same⟩
    cases same
    rcases Option.filter_eq_some_iff.mp installed with ⟨configured, directory⟩
    refine ⟨configured, directory, before, after, split, ?_⟩
    exact List.findSome?_eq_none_iff.mpr none
  · rintro ⟨configured, directory, before, after, split, none⟩
    refine ⟨before, v, after, split, ?_, List.findSome?_eq_none_iff.mp none⟩
    simp [configured, directory]

end Chain

namespace Petsc

/-- A release is installed in a directory. -/
def InstalledAt (t : FileTree) (c : Context) (release : PetscRelease) (base : Path) : Prop :=
  c.installation release = some base ∧ t.isDirectory base = true

/-- The newest installed release that is not newer than another one. -/
structure IsNewest (t : FileTree) (c : Context) (wanted release : PetscRelease) (base : Path) :
    Prop where
  installed : InstalledAt t c release base
  notNewer : release.rank ≤ wanted.rank
  newest : ∀ other place, InstalledAt t c other place → other.rank ≤ wanted.rank →
    other.rank ≤ release.rank

theorem firstInstalled_andOlder_eq_none_iff {t : FileTree} {c : Context} {wanted : PetscRelease} :
    Chain.firstInstalled t c.installation wanted.andOlder = none ↔
      ∀ release base, release.rank ≤ wanted.rank → ¬ InstalledAt t c release base := by
  rw [Chain.firstInstalled_eq_none_iff]
  constructor
  · intro none release base notNewer installed
    have absent := none release (PetscRelease.mem_andOlder.mpr notNewer) base installed.1
    rw [installed.2] at absent
    cases absent
  · intro none release listed base configured
    apply Bool.eq_false_iff.mpr
    intro directory
    exact none release base (PetscRelease.mem_andOlder.mp listed) ⟨configured, directory⟩

/-- The first installed release of a falling series is the newest one. -/
theorem firstInstalled_andOlder_eq_some_iff {t : FileTree} {c : Context}
    {wanted release : PetscRelease} {base : Path} :
    Chain.firstInstalled t c.installation wanted.andOlder = some (release, base) ↔
      IsNewest t c wanted release base := by
  -- Whatever stands before a hit in the falling list is newer, and whatever stands behind it
  -- is older, so being first and being newest are the same.
  have falling := wanted.pairwise_andOlder
  rw [Chain.firstInstalled_eq_some_iff]
  constructor
  · rintro ⟨configured, directory, before, after, split, none⟩
    have listed : release ∈ wanted.andOlder := by
      rw [split]
      exact List.mem_append_right _ List.mem_cons_self
    refine ⟨⟨configured, directory⟩, PetscRelease.mem_andOlder.mp listed, ?_⟩
    intro other place installed notNewer
    have member := PetscRelease.mem_andOlder.mpr notNewer
    rw [split] at member falling
    rcases List.mem_append.mp member with early | rest
    · have absent := Chain.firstInstalled_eq_none_iff.mp none other early place installed.1
      rw [installed.2] at absent
      cases absent
    · rcases List.mem_cons.mp rest with same | late
      · exact Nat.le_of_eq (congrArg PetscRelease.rank same)
      · have tail := (List.pairwise_append.mp falling).2.1
        exact Nat.le_of_lt ((List.pairwise_cons.mp tail).1 other late)
  · intro newest
    have listed := PetscRelease.mem_andOlder.mpr newest.notNewer
    rcases List.append_of_mem listed with ⟨before, after, split⟩
    refine ⟨newest.installed.1, newest.installed.2, before, after, split, ?_⟩
    rw [split] at falling
    apply Chain.firstInstalled_eq_none_iff.mpr
    intro other early place configured
    apply Bool.eq_false_iff.mpr
    intro directory
    have newer : release.rank < other.rank :=
      (List.pairwise_append.mp falling).2.2 other early release List.mem_cons_self
    have member : other ∈ wanted.andOlder := by
      rw [split]
      exact List.mem_append_left _ early
    have notNewer := newest.newest other place ⟨configured, directory⟩
      (PetscRelease.mem_andOlder.mp member)
    exact absurd newer (Nat.not_lt_of_ge notNewer)

/-- What is chosen for a request is the newest installed release that the request allows. -/
theorem chosen?_eq_some_iff {t : FileTree} {c : Context} {requested : String}
    {release : PetscRelease} {base : Path} :
    chosen? t c requested = some (release, base) ↔
      ∃ wanted : PetscRelease, Text.leading 3 requested = wanted.name ∧
        IsNewest t c wanted release base := by
  unfold chosen?
  rw [Option.bind_eq_some_iff]
  apply exists_congr
  intro wanted
  rw [PetscRelease.ofVersion?_eq_some_iff, PetscRelease.versions_chain,
    firstInstalled_andOlder_eq_some_iff]

/-! ## The layouts of a release -/

/-- All places where the parts of a release may lie, best first.  A layout keeps the headers
and the libraries of one build together. -/
def layouts (p : Profile) (flavour : Flavour) (release : PetscRelease) (base : Path) :
    List Layout :=
  match release with
  | .v2_2 =>
      (libDirs22 flavour).map (fun dir =>
        { archHeaders := (base.child "bmake").child p.arch
          libPath := ((base.child "lib").child dir).child p.arch
          commands := none })
  | .v2_3 =>
      (p.archNames flavour).map (fun arch =>
        { archHeaders := (base.child "bmake").child arch
          libPath := (base.child "lib").child arch
          commands := none })
  | _ =>
      (p.archNames flavour).map (fun arch =>
        { archHeaders := (base.child arch).child "include"
          libPath := (base.child arch).child "lib"
          commands := some ((base.child arch).child "bin") })

/-- Whether the libraries of a layout are there.  Release 2.2 is content with any entry in
their place. -/
def hasLibraries (t : FileTree) (release : PetscRelease) (l : Layout) : Bool :=
  match release with
  | .v2_2 => t.present l.libPath
  | _ => t.isDirectory l.libPath

theorem hasLibraries_of_ne {t : FileTree} {release : PetscRelease} (later : release ≠ .v2_2)
    (l : Layout) : hasLibraries t release l = t.isDirectory l.libPath := by
  cases release with
  | v2_2 => exact absurd rfl later
  | _ => rfl

/-- The layout that is taken: the first with its libraries, or, except for release 2.2, the
last one if none has them. -/
def IsChosen (t : FileTree) (release : PetscRelease) (all : List Layout) (found : Layout) :
    Prop :=
  all.find? (hasLibraries t release) = some found ∨
    (release ≠ .v2_2 ∧ (∀ l ∈ all, hasLibraries t release l = false) ∧
      all.getLast? = some found)

theorem mem_of_isChosen {t : FileTree} {release : PetscRelease} {all : List Layout}
    {found : Layout} (chosen : IsChosen t release all found) : found ∈ all := by
  rcases chosen with first | ⟨_, _, last⟩
  · exact List.mem_of_find?_eq_some first
  · exact List.mem_of_getLast? last

theorem archNames_ne_nil (p : Profile) (flavour : Flavour) : p.archNames flavour ≠ [] := by
  unfold Profile.archNames
  simp

/-- The layout with the chosen name is the chosen layout. -/
theorem isChosen_chooseArch {t : FileTree} {release : PetscRelease} {names : List String}
    (named : names ≠ []) (later : release ≠ .v2_2) (build : String → Layout) (found : Layout) :
    IsChosen t release (names.map build) found ↔
      found = build (chooseArch t names (fun name => (build name).libPath)) := by
  have test := hasLibraries_of_ne (t := t) later
  have first : (names.map build).find? (hasLibraries t release) =
      (names.find? (fun name => t.isDirectory (build name).libPath)).map build := by
    rw [List.find?_map]
    congr 1
    apply congrArg (fun p => List.find? p names)
    funext name
    exact test (build name)
  unfold IsChosen chooseArch
  rw [first]
  cases hit : names.find? (fun name => t.isDirectory (build name).libPath) with
  | some name =>
      simp only [Option.map_some, Option.some.injEq, Option.some_or, Option.getD_some]
      constructor
      · rintro (same | ⟨_, none, _⟩)
        · exact same.symm
        · have member : build name ∈ names.map build :=
            List.mem_map_of_mem (List.mem_of_find?_eq_some hit)
          have absent := none (build name) member
          rw [test, List.find?_some hit] at absent
          cases absent
      · intro same
        exact Or.inl same.symm
  | none =>
      have none : ∀ l ∈ names.map build, hasLibraries t release l = false := by
        intro l listed
        rcases List.mem_map.mp listed with ⟨name, member, same⟩
        rw [← same, test]
        exact Bool.eq_false_iff.mpr (List.find?_eq_none.mp hit name member)
      simp only [Option.map_none, Option.none_or, reduceCtorEq, false_or]
      rw [List.getLast?_eq_some_getLast named, List.getLast?_map,
        List.getLast?_eq_some_getLast named]
      simp only [Option.map_some, Option.some.injEq, Option.getD_some]
      constructor
      · rintro ⟨_, _, same⟩
        exact same.symm
      · intro same
        exact ⟨later, none, same.symm⟩

theorem layout_eq_ok_iff {t : FileTree} {p : Profile} {flavour : Flavour}
    {release : PetscRelease} {base : Path} {found : Layout} :
    layout t p flavour release base = .ok found ↔
      IsChosen t release (layouts p flavour release base) found := by
  have named := archNames_ne_nil p flavour
  cases release with
  | v2_2 =>
      have test : hasLibraries t .v2_2 = fun l => t.present l.libPath := rfl
      unfold layout layouts IsChosen
      simp only [List.find?_map, ne_eq, not_true_eq_false, false_and, or_false, test]
      cases hit : (libDirs22 flavour).find?
          (t.present ∘ fun dir => ((base.child "lib").child dir).child p.arch) with
      | none =>
          have miss := hit
          simp only [Function.comp_def] at miss ⊢
          simp [miss]
      | some dir =>
          have place := hit
          simp only [Function.comp_def] at place ⊢
          simp [place]
  | v2_3 =>
      rw [layouts, isChosen_chooseArch named (by decide)]
      simp only [layout, Except.ok.injEq]
      exact eq_comm
  | v3_0 =>
      rw [layouts, isChosen_chooseArch named (by decide)]
      · simp only [layout, Except.ok.injEq]
        exact eq_comm
      all_goals decide
  | v3_1 =>
      rw [layouts, isChosen_chooseArch named (by decide)]
      · simp only [layout, Except.ok.injEq]
        exact eq_comm
      all_goals decide

/-- Only release 2.2 can be without a layout, and it is if neither library directory is there. -/
theorem layout_eq_error_iff {t : FileTree} {p : Profile} {flavour : Flavour}
    {release : PetscRelease} {base : Path} {e : Misconfiguration} :
    layout t p flavour release base = .error e ↔
      release = .v2_2 ∧ (∀ l ∈ layouts p flavour release base, t.present l.libPath = false) ∧
        e = .directoryNotFound "PETSc 2.2" "libraries" (base.child "lib") := by
  cases release with
  | v2_2 =>
      unfold layout
      cases hit : ((libDirs22 flavour).map (fun dir =>
          ((base.child "lib").child dir).child p.arch)).find? t.present with
      | none =>
          have absent : ∀ l ∈ layouts p flavour .v2_2 base, t.present l.libPath = false := by
            intro l listed
            rcases List.mem_map.mp listed with ⟨dir, member, same⟩
            rw [← same]
            have place := List.mem_map_of_mem
              (f := fun dir => ((base.child "lib").child dir).child p.arch) member
            exact Bool.eq_false_iff.mpr (List.find?_eq_none.mp hit _ place)
          simp only [hit, Except.error.injEq, true_and]
          constructor
          · intro same
            exact ⟨absent, same.symm⟩
          · rintro ⟨_, same⟩
            exact same.symm
      | some libPath =>
          simp only [hit, reduceCtorEq, true_and, false_iff]
          rintro ⟨absent, _⟩
          rcases List.mem_map.mp (List.mem_of_find?_eq_some hit) with ⟨dir, member, same⟩
          have place := absent _ (List.mem_map_of_mem member)
          rw [same, List.find?_some hit] at place
          cases place
  | v2_3 => simp [layout]
  | v3_0 => simp [layout]
  | v3_1 => simp [layout]

/-- There is one chosen layout, so what holds of some chosen layout holds of it. -/
theorem exists_isChosen_iff {t : FileTree} {p : Profile} {flavour : Flavour}
    {release : PetscRelease} {base : Path} {found : Layout}
    (ending : layout t p flavour release base = .ok found) (property : Layout → Prop) :
    (∃ other, IsChosen t release (layouts p flavour release base) other ∧ property other) ↔
      property found := by
  constructor
  · rintro ⟨other, chosen, holds⟩
    have again := layout_eq_ok_iff.mpr chosen
    rw [ending] at again
    rw [Except.ok.inj again]
    exact holds
  · intro holds
    exact ⟨found, layout_eq_ok_iff.mp ending, holds⟩

/-- Except for release 2.2, the chosen layout lacks its libraries only if all of them do. -/
theorem chosen_lacks_iff {t : FileTree} {p : Profile} {flavour : Flavour}
    {release : PetscRelease} {base : Path} (later : release ≠ .v2_2) :
    (∃ found, IsChosen t release (layouts p flavour release base) found ∧
        t.isDirectory found.libPath = false) ↔
      ∀ l ∈ layouts p flavour release base, t.isDirectory l.libPath = false := by
  have test := hasLibraries_of_ne (t := t) later
  constructor
  · rintro ⟨found, first | ⟨_, none, _⟩, absent⟩
    · have present := List.find?_some first
      rw [test, absent] at present
      cases present
    · intro l listed
      exact (test l).symm.trans (none l listed)
  · intro none
    cases ending : layout t p flavour release base with
    | error e => exact absurd (layout_eq_error_iff.mp ending).1 later
    | ok found =>
        apply (exists_isChosen_iff ending _).mpr
        rcases layout_eq_ok_iff.mp ending with first | ⟨_, _, last⟩
        · exact none found (List.mem_of_find?_eq_some first)
        · exact none found (List.mem_of_getLast? last)

/-! ## The decision -/

section Decision

variable {t : FileTree} {c : Context} {requested : String} {flavour : Flavour}
  {headersOnly : Bool} {wanted release : PetscRelease} {base : Path}

theorem choice_of_unknown (unknown : ∀ r : PetscRelease, Text.leading 3 requested ≠ r.name) :
    choice t c requested = .error (.unknownVersion component requested) := by
  have unnamed : PetscRelease.ofVersion? requested = none := by
    cases found : PetscRelease.ofVersion? requested with
    | none => rfl
    | some r => exact absurd (PetscRelease.ofVersion?_eq_some_iff.mp found) (unknown r)
  unfold choice
  rw [unnamed]

theorem choice_of_named (named : Text.leading 3 requested = wanted.name) :
    choice t c requested =
      match Chain.firstInstalled t c.installation wanted.andOlder with
      | none =>
          .error (.missingDependency component requested (wanted.andOlder.map PetscRelease.name))
      | some found => .ok found := by
  cases first : Chain.firstInstalled t c.installation wanted.andOlder with
  | none =>
      change choice t c requested = .error _
      unfold choice
      rw [PetscRelease.ofVersion?_eq_some_iff.mpr named]
      simp only [PetscRelease.versions_chain, first]
  | some found =>
      change choice t c requested = .ok found
      unfold choice
      rw [PetscRelease.ofVersion?_eq_some_iff.mpr named]
      simp only [PetscRelease.versions_chain, first]

theorem result_of_choice_error (used : c.skipPetsc = false) {e : Misconfiguration}
    (failed : choice t c requested = .error e) :
    (resolve t requested flavour headersOnly c).result = .error e := by
  rw [result_resolve used, located, failed]

theorem located_of_isNewest (named : Text.leading 3 requested = wanted.name)
    (newest : IsNewest t c wanted release base) :
    located t c requested flavour =
      match layout t c.profile flavour release base with
      | .error e => .error e
      | .ok found => .ok (release, base, found) := by
  have first := firstInstalled_andOlder_eq_some_iff.mpr newest
  have chosen : choice t c requested = .ok (release, base) := by
    rw [choice_of_named named, first]
  cases ending : layout t c.profile flavour release base with
  | error cause =>
      change located t c requested flavour = .error cause
      unfold located
      simp only [chosen, ending]
  | ok found =>
      change located t c requested flavour = .ok (release, base, found)
      unfold located
      simp only [chosen, ending]

/-- With the release chosen, the result depends on its installation alone. -/
theorem result_of_isNewest (used : c.skipPetsc = false)
    (named : Text.leading 3 requested = wanted.name)
    (newest : IsNewest t c wanted release base) :
    (resolve t requested flavour headersOnly c).result =
      match layout t c.profile flavour release base with
      | .error e => .error e
      | .ok found => verdict t release base found headersOnly := by
  rw [result_resolve used, located_of_isNewest named newest]
  cases layout t c.profile flavour release base <;> rfl

theorem verdict_eq_ok_iff {found : Layout} {outcome : Option PetscRelease} :
    verdict t release base found headersOnly = .ok outcome ↔
      t.isDirectory (base.child "include") = true ∧
      (headersOnly = false → t.isDirectory found.libPath = true) ∧ outcome = some release := by
  have same : ∀ o : Option PetscRelease,
      (Except.ok o : Except Misconfiguration _) = .ok outcome ↔ outcome = o := by
    intro o
    rw [Except.ok.injEq]
    exact eq_comm
  unfold verdict
  by_cases headers : t.isDirectory (base.child "include") = true
  · by_cases linked : t.isDirectory found.libPath = true
    · simp only [headers, linked, Bool.or_true, if_true, same, true_and, implies_true]
    · cases headersOnly with
      | true =>
          simp only [headers, Bool.true_or, if_true, same, true_and, reduceCtorEq, false_imp_iff]
      | false => simp [headers, linked]
  · simp [headers]

theorem exists_verdict_eq_error_iff {found : Layout} :
    (∃ e, verdict t release base found headersOnly = .error e) ↔
      t.isDirectory (base.child "include") = false ∨
      (headersOnly = false ∧ t.isDirectory found.libPath = false) := by
  unfold verdict
  by_cases headers : t.isDirectory (base.child "include") = true
  · by_cases linked : t.isDirectory found.libPath = true
    · simp [headers, linked]
    · cases headersOnly with
      | true => simp [headers]
      | false => simp [headers, linked]
  · simp [headers]

/-- An installation that was chosen is refused for a missing directory and for nothing else. -/
theorem eq_directoryNotFound_of_isNewest (used : c.skipPetsc = false)
    (named : Text.leading 3 requested = wanted.name)
    (newest : IsNewest t c wanted release base) {e : Misconfiguration}
    (failed : (resolve t requested flavour headersOnly c).result = .error e) :
    ∃ component what path, e = .directoryNotFound component what path := by
  rw [result_of_isNewest used named newest] at failed
  cases ending : layout t c.profile flavour release base with
  | ok found =>
      simp only [ending] at failed
      rcases eq_directoryNotFound_of_verdict failed with ⟨what, path, same⟩
      exact ⟨component, what, path, same⟩
  | error cause =>
      simp only [ending] at failed
      cases failed
      exact ⟨_, _, _, (layout_eq_error_iff.mp ending).2.2⟩

/-- If any release that is not newer is installed at all, one of them is the newest. -/
theorem none_or_exists_isNewest (t : FileTree) (c : Context) (wanted : PetscRelease) :
    (∀ release base, release.rank ≤ wanted.rank → ¬ InstalledAt t c release base) ∨
      ∃ release base, IsNewest t c wanted release base := by
  cases first : Chain.firstInstalled t c.installation wanted.andOlder with
  | none => exact Or.inl (firstInstalled_andOlder_eq_none_iff.mp first)
  | some found =>
      exact Or.inr ⟨found.1, found.2, firstInstalled_andOlder_eq_some_iff.mp first⟩

end Decision

/-- How a request is decided: by the name of a release, then by the newest installation, and
then by the directories of that installation. -/
structure Decided (t : FileTree) (c : Context) (requested : String) (flavour : Flavour)
    (headersOnly : Bool) (o : Outcome Misconfiguration Context (Option PetscRelease)) :
    Prop where
  unknown : o.result = .error (.unknownVersion component requested) ↔
    ∀ r : PetscRelease, Text.leading 3 requested ≠ r.name
  missing : ∀ wanted : PetscRelease, Text.leading 3 requested = wanted.name →
    (o.result =
        .error (.missingDependency component requested (wanted.andOlder.map PetscRelease.name)) ↔
      ∀ release base, release.rank ≤ wanted.rank → ¬ InstalledAt t c release base)
  committed : ∀ wanted : PetscRelease,
    (∀ release base, release.rank ≤ wanted.rank → ¬ InstalledAt t c release base) ∨
      ∃ release base, IsNewest t c wanted release base
  incomplete : ∀ (wanted release : PetscRelease) (base : Path),
    Text.leading 3 requested = wanted.name → IsNewest t c wanted release base →
    ((∃ e, o.result = .error e) ↔
      (release = .v2_2 ∧
        ∀ l ∈ layouts c.profile flavour release base, t.present l.libPath = false) ∨
      t.isDirectory (base.child "include") = false ∨
      (headersOnly = false ∧ ∃ found,
        IsChosen t release (layouts c.profile flavour release base) found ∧
        t.isDirectory found.libPath = false))
  lacking : ∀ (release : PetscRelease) (base : Path), release ≠ .v2_2 →
    ((∃ found, IsChosen t release (layouts c.profile flavour release base) found ∧
        t.isDirectory found.libPath = false) ↔
      ∀ l ∈ layouts c.profile flavour release base, t.isDirectory l.libPath = false)
  complete : ∀ (wanted release : PetscRelease) (base : Path) (outcome : Option PetscRelease),
    Text.leading 3 requested = wanted.name → IsNewest t c wanted release base →
    o.result = .ok outcome →
    outcome = some release ∧ ∃ found,
      IsChosen t release (layouts c.profile flavour release base) found ∧
      o.state = c.extended (bundled t found.commands c.profile.tools)
        { includePaths := [found.archHeaders, base.child "include"]
          libPaths := if headersOnly then [] else [found.libPath]
          libraries := if headersOnly then [] else libraries release }

section Decision

variable {t : FileTree} {c : Context} {requested : String} {flavour : Flavour}
  {headersOnly : Bool} {wanted release : PetscRelease} {base : Path}

theorem unknown_iff (used : c.skipPetsc = false) :
    (resolve t requested flavour headersOnly c).result =
        .error (.unknownVersion component requested) ↔
      ∀ r : PetscRelease, Text.leading 3 requested ≠ r.name := by
  constructor
  · intro failed wanted named
    cases first : Chain.firstInstalled t c.installation wanted.andOlder with
    | none =>
        have chosen := choice_of_named (t := t) (c := c) named
        rw [first] at chosen
        rw [result_of_choice_error used chosen] at failed
        cases failed
    | some found =>
        have newest := firstInstalled_andOlder_eq_some_iff.mp first
        rcases eq_directoryNotFound_of_isNewest used named newest failed with ⟨_, _, _, other⟩
        cases other
  · intro unknown
    exact result_of_choice_error used (choice_of_unknown unknown)

theorem missing_iff (used : c.skipPetsc = false)
    (named : Text.leading 3 requested = wanted.name) :
    (resolve t requested flavour headersOnly c).result =
        .error (.missingDependency component requested
          (wanted.andOlder.map PetscRelease.name)) ↔
      ∀ release base, release.rank ≤ wanted.rank → ¬ InstalledAt t c release base := by
  constructor
  · intro failed release base notNewer installed
    rcases none_or_exists_isNewest t c wanted with none | ⟨chosen, place, newest⟩
    · exact none release base notNewer installed
    · rcases eq_directoryNotFound_of_isNewest used named newest failed with ⟨_, _, _, other⟩
      cases other
  · intro none
    have chosen := choice_of_named (t := t) (c := c) named
    rw [firstInstalled_andOlder_eq_none_iff.mpr none] at chosen
    exact result_of_choice_error used chosen

theorem incomplete_iff (used : c.skipPetsc = false)
    (named : Text.leading 3 requested = wanted.name)
    (newest : IsNewest t c wanted release base) :
    (∃ e, (resolve t requested flavour headersOnly c).result = .error e) ↔
      (release = .v2_2 ∧
        ∀ l ∈ layouts c.profile flavour release base, t.present l.libPath = false) ∨
      t.isDirectory (base.child "include") = false ∨
      (headersOnly = false ∧ ∃ found,
        IsChosen t release (layouts c.profile flavour release base) found ∧
        t.isDirectory found.libPath = false) := by
  rw [result_of_isNewest used named newest]
  cases ending : layout t c.profile flavour release base with
  | error cause =>
      have absent := layout_eq_error_iff.mp ending
      exact iff_of_true ⟨cause, rfl⟩ (Or.inl ⟨absent.1, absent.2.1⟩)
  | ok found =>
      have laidOut : ¬ (release = .v2_2 ∧
          ∀ l ∈ layouts c.profile flavour release base, t.present l.libPath = false) := by
        rintro ⟨old, absent⟩
        have refused := layout_eq_error_iff.mpr ⟨old, absent, rfl⟩
        rw [ending] at refused
        cases refused
      have lacking := exists_isChosen_iff ending (fun l => t.isDirectory l.libPath = false)
      simp only [laidOut, false_or, lacking]
      exact exists_verdict_eq_error_iff

/-- A resolution that succeeds adds everything the chosen layout has, and of one build only. -/
theorem state_of_isNewest (used : c.skipPetsc = false)
    (named : Text.leading 3 requested = wanted.name)
    (newest : IsNewest t c wanted release base) {outcome : Option PetscRelease}
    (succeeded : (resolve t requested flavour headersOnly c).result = .ok outcome) :
    outcome = some release ∧ ∃ found,
      IsChosen t release (layouts c.profile flavour release base) found ∧
      (resolve t requested flavour headersOnly c).state =
        c.extended (bundled t found.commands c.profile.tools)
          { includePaths := [found.archHeaders, base.child "include"]
            libPaths := if headersOnly then [] else [found.libPath]
            libraries := if headersOnly then [] else libraries release } := by
  rw [result_of_isNewest used named newest] at succeeded
  rw [state_resolve used, located_of_isNewest named newest]
  cases ending : layout t c.profile flavour release base with
  | error cause =>
      simp only [ending] at succeeded
      cases succeeded
  | ok found =>
      simp only [ending] at succeeded
      rcases verdict_eq_ok_iff.mp succeeded with ⟨headers, linked, same⟩
      refine ⟨same, found, layout_eq_ok_iff.mp ending, ?_⟩
      have line : added t release base found headersOnly =
          { includePaths := [found.archHeaders, base.child "include"]
            libPaths := if headersOnly then [] else [found.libPath]
            libraries := if headersOnly then [] else libraries release } := by
        cases headersOnly with
        | true => exact (checks_of_headersOnly release found headers).2
        | false => exact (checks_of_libraries release found headers (linked rfl)).2
      simp only [line]

/-- Every resolution that is not left to the platform is decided in this way. -/
theorem decided_resolve (t : FileTree) (c : Context) (used : c.skipPetsc = false)
    (requested : String) (flavour : Flavour) (headersOnly : Bool) :
    Decided t c requested flavour headersOnly (resolve t requested flavour headersOnly c) where
  unknown := unknown_iff used
  missing _ named := missing_iff used named
  committed wanted := none_or_exists_isNewest t c wanted
  incomplete _ _ _ named newest := incomplete_iff used named newest
  lacking _ _ later := chosen_lacks_iff later
  complete _ _ _ _ named newest succeeded := state_of_isNewest used named newest succeeded

end Decision

/-! Two releases are installed, and the newer one lacks its common headers. -/

def halfInstalled : Context :=
  Context.start { Profile.plain with petsc22 := some ⟨"old"⟩, petsc23 := some ⟨"/opt/petsc"⟩ }
    ⟨"/p"⟩ false

def halfInstalledTree : FileTree :=
  ((FileTree.empty.makeDirectories? [] ["opt", "petsc", "lib", "linux-gnu"]).bind (fun t =>
    (t.makeDirectories? [] ["p", "old", "include"]).bind (fun t =>
      t.makeDirectories? [] ["p", "old", "lib", "libg_c++", "linux-gnu"]))).getD FileTree.empty

theorem isNewest_halfInstalled :
    IsNewest halfInstalledTree halfInstalled .v3_0 .v2_3 ⟨"/opt/petsc"⟩ where
  installed := ⟨rfl, by decide⟩
  notNewer := by decide
  newest other place installed notNewer := by
    cases other with
    | v2_2 => decide
    | v2_3 => decide
    | v3_0 => cases installed.1
    | v3_1 => cases installed.1

/-- The older release has all its parts, but a request for 3.0 stops at the newer one. -/
theorem decided_resolve_halfInstalled :
    halfInstalled.skipPetsc = false ∧
      (∃ e, (resolve halfInstalledTree "3.0.0-p12" .debug false halfInstalled).result =
        .error e) ∧
      (resolve halfInstalledTree "2.2" .debug false halfInstalled).result = .ok (some .v2_2) := by
  have decided := decided_resolve halfInstalledTree halfInstalled rfl "3.0.0-p12" .debug false
  have stops := decided.incomplete .v3_0 .v2_3 ⟨"/opt/petsc"⟩ rfl isNewest_halfInstalled
  have headers : halfInstalledTree.isDirectory (Path.child ⟨"/opt/petsc"⟩ "include") = false := by
    decide
  exact ⟨rfl, stops.mpr (Or.inr (Or.inl headers)), rfl⟩

end Petsc
end HostLink
