import HostLink.Proofs.Resolution.Decision
import HostLink.Text.Utf8

namespace HostLink
namespace Dealii

/-!
# What Deal.II puts on the link line

Deal.II stands on a PETSc of its own choice: version 6 on the headers of release 2.3 or 2.2, and
an older version on all of release 2.2.  These come first in each of the three lists, and what
Deal.II has itself comes behind them.  The ending `.g` of the debugging libraries is given to
the names of Deal.II, `petscall` among them, and to no name of PETSc.

There are two ways to succeed and four to fail, and each of them is a rule here.  The rules are
exact: they leave no other ending, and each tells the whole context or the cause.
-/

/-- The name of a library of Deal.II as a build links it. -/
def linkName (b : Build) (name : String) : String :=
  if b.dealiiDebugging then name ++ ".g" else name

/-- The flavour of the PETSc below Deal.II. -/
def petscFlavour (b : Build) : Flavour :=
  Flavour.ofFlags b.optimised false false

/-- Deal.II is configured and there, and its file of the version has this text. -/
structure Known (t : FileTree) (c : Context) (path : Path) (text : String) : Prop where
  configured : c.profile.dealii = some path
  present : t.present (c.absolute path) = true
  read : t.readText ((c.absolute path).child "Version") = .ok text

/-- The contexts that a resolution of Deal.II can leave when it succeeds. -/
inductive Linked (t : FileTree) (b : Build) (c : Context) : Context → Prop
  /-- Version 6, with the headers of PETSc only. -/
  | six {path place : Path} {text : String} {release : PetscRelease} {found : Petsc.Layout}
      (known : Known t c path text)
      (version : Text.startsWith "6." (Text.trimmed text) = true)
      (used : release = .v2_3 ∨ release = .v2_2)
      (newest : Petsc.IsNewest t c .v2_3 release place)
      (chosen :
        Petsc.IsChosen t release (Petsc.layouts c.profile (petscFlavour b) release place) found)
      (headers : t.isDirectory (place.child "include") = true) :
      Linked t b c { c with line := c.line ++
        { includePaths := [found.archHeaders, place.child "include",
            (c.absolute path).child "base/include", (c.absolute path).child "lac/include",
            (c.absolute path).child "deal.II/include"]
          libPaths := [(c.absolute path).child "lib"]
          libraries := ["deal_II_1d", "deal_II_2d", "deal_II_3d", "lac", "base", "petscall"].map
            (linkName b) } }
  /-- An older version, with all of PETSc 2.2. -/
  | older {path place : Path} {text : String} {found : Petsc.Layout}
      (known : Known t c path text)
      (version : Text.startsWith "6." (Text.trimmed text) = false)
      (newest : Petsc.IsNewest t c .v2_2 .v2_2 place)
      (chosen :
        Petsc.IsChosen t .v2_2 (Petsc.layouts c.profile (petscFlavour b) .v2_2 place) found)
      (headers : t.isDirectory (place.child "include") = true)
      (linked : t.isDirectory found.libPath = true) :
      Linked t b c { c with line := c.line ++
        { includePaths := [found.archHeaders, place.child "include",
            (c.absolute path).child "base/include", (c.absolute path).child "lac/include",
            (c.absolute path).child "deal.II/include"]
          libPaths := [found.libPath, (c.absolute path).child "lib"]
          libraries :=
            ["petscts", "petscsnes", "petscksp", "petscdm", "petscmat", "petscvec", "petsc"] ++
              ["deal_II_1d", "deal_II_2d", "deal_II_3d", "lac", "base"].map (linkName b) } }

/-- The causes for which Deal.II does not get to know its own version, in the order in which
they are looked for. -/
inductive Unstated (t : FileTree) (c : Context) : Misconfiguration → Prop
  | unconfigured (configured : c.profile.dealii = none) :
      Unstated t c (.notConfigured component)
  | absent {path : Path} (configured : c.profile.dealii = some path)
      (absent : t.present (c.absolute path) = false) :
      Unstated t c (.pathNotFound component (c.absolute path))
  | unreadable {path : Path} {cause : FileFailure} (configured : c.profile.dealii = some path)
      (present : t.present (c.absolute path) = true)
      (unread : t.readText ((c.absolute path).child "Version") = .error cause) :
      Unstated t c (.unreadable ((c.absolute path).child "Version") cause.message)

/-- The causes for which a resolution of Deal.II can fail. -/
inductive Refused (t : FileTree) (b : Build) (c : Context) : Misconfiguration → Prop
  | unstated {e : Misconfiguration} (cause : Unstated t c e) : Refused t b c e
  /-- The PETSc that the version asks for is refused. -/
  | petsc {path : Path} {text : String} {e : Misconfiguration} (known : Known t c path text)
      (failed :
        (petsc t b (Text.startsWith "6." (Text.trimmed text)) c).result = .error e) :
      Refused t b c e

/-! ## The version -/

theorem statedVersion_eq_ok_iff {t : FileTree} {base : Path} {version : String} :
    statedVersion t base = .ok version ↔
      ∃ text, t.readText (base.child "Version") = .ok text ∧ version = Text.trimmed text := by
  cases read : t.readText (base.child "Version") with
  | ok text => simp [statedVersion, read, eq_comm]
  | error cause => simp [statedVersion, read]

theorem statedVersion_eq_error_iff {t : FileTree} {base : Path} {e : Misconfiguration} :
    statedVersion t base = .error e ↔
      ∃ cause, t.readText (base.child "Version") = .error cause ∧
        e = .unreadable (base.child "Version") cause.message := by
  cases read : t.readText (base.child "Version") with
  | ok text => simp [statedVersion, read]
  | error cause => simp [statedVersion, read, eq_comm]

/-- What Deal.II finds out about itself, for a path that is configured. -/
theorem stated_of_configured {t : FileTree} {c : Context} {path : Path}
    (configured : c.profile.dealii = some path) :
    stated t c =
      if t.present (c.absolute path) then
        (statedVersion t (c.absolute path)).map (fun version => (c.absolute path, version))
      else .error (.pathNotFound component (c.absolute path)) := by
  cases present : t.present (c.absolute path) with
  | true =>
      have passed : t.require (c.absolute path) component = .ok () :=
        FileTree.require_eq_ok_iff.mpr present
      simp only [stated, configured, passed, if_true]
      cases statedVersion t (c.absolute path) <;> rfl
  | false =>
      simp only [stated, configured, FileTree.require_of_absent present, Bool.false_eq_true,
        if_false]

theorem stated_of_known {t : FileTree} {c : Context} {path : Path} {text : String}
    (known : Known t c path text) :
    stated t c = .ok (c.absolute path, Text.trimmed text) := by
  rw [stated_of_configured known.configured, known.present,
    statedVersion_eq_ok_iff.mpr ⟨text, known.read, rfl⟩]
  rfl

theorem stated_of_unstated {t : FileTree} {c : Context} {e : Misconfiguration}
    (cause : Unstated t c e) : stated t c = .error e := by
  cases cause with
  | unconfigured configured => simp only [stated, configured]
  | absent configured absent =>
      rw [stated_of_configured configured, absent]
      rfl
  | unreadable configured present unread =>
      rw [stated_of_configured configured, present,
        statedVersion_eq_error_iff.mpr ⟨_, unread, rfl⟩]
      rfl

/-- Either the text of the version is known, or there is a cause why it is not. -/
theorem known_or_unstated (t : FileTree) (c : Context) :
    (∃ path text, Known t c path text) ∨ ∃ e, Unstated t c e := by
  cases configured : c.profile.dealii with
  | none => exact Or.inr ⟨_, .unconfigured configured⟩
  | some path =>
      cases present : t.present (c.absolute path) with
      | false => exact Or.inr ⟨_, .absent configured present⟩
      | true =>
          cases read : t.readText ((c.absolute path).child "Version") with
          | ok text => exact Or.inl ⟨path, text, configured, present, read⟩
          | error cause => exact Or.inr ⟨_, .unreadable configured present read⟩

/-! ## The PETSc below -/

/-- The release that Deal.II asks for. -/
def wantedRelease (six : Bool) : PetscRelease :=
  if six then .v2_3 else .v2_2

theorem old_of_notNewer {release : PetscRelease} {six : Bool}
    (notNewer : release.rank ≤ (wantedRelease six).rank) :
    (release = .v2_3 ∨ release = .v2_2) ∧ (six = false → release = .v2_2) := by
  revert notNewer
  cases six <;> cases release <;> decide

/-- No release that Deal.II uses brings commands along, so the profile stays as it is. -/
theorem extended_of_old {t : FileTree} {c : Context} {flavour : Flavour} {release : PetscRelease}
    {base : Path} {found : Petsc.Layout} (old : release = .v2_3 ∨ release = .v2_2)
    (listed : found ∈ Petsc.layouts c.profile flavour release base) (more : LinkLine) :
    c.extended (Petsc.bundled t found.commands c.profile.tools) more =
      { c with line := c.line ++ more } := by
  have commands : found.commands = none := by
    rcases old with rfl | rfl
    · rcases List.mem_map.mp listed with ⟨_, _, rfl⟩
      rfl
    · rcases List.mem_map.mp listed with ⟨_, _, rfl⟩
      rfl
  rw [commands]
  rfl

/-- The PETSc below Deal.II is the newest one that is allowed, and nothing but the link line
changes for it. -/
theorem succeeds_petsc_iff {t : FileTree} {b : Build} {c d : Context} {six : Bool}
    {outcome : Option PetscRelease} (used : c.skipPetsc = false) :
    (petsc t b six).Succeeds c outcome d ↔
      ∃ release place found, outcome = some release ∧
        Petsc.IsNewest t c (wantedRelease six) release place ∧
        Petsc.IsChosen t release (Petsc.layouts c.profile (petscFlavour b) release place) found ∧
        t.isDirectory (place.child "include") = true ∧
        (six = false → t.isDirectory found.libPath = true) ∧
        d = { c with line := c.line ++ Petsc.contribution release place found six } := by
  have named : Text.leading 3 (if six then "2.3" else "2.2") = (wantedRelease six).name := by
    cases six <;> rfl
  -- The requested text names one release, so the choice is the newest up to that one.
  have allowed : ∀ release place,
      Petsc.chosen? t c (if six then "2.3" else "2.2") = some (release, place) ↔
        Petsc.IsNewest t c (wantedRelease six) release place := by
    intro release place
    rw [Petsc.chosen?_eq_some_iff]
    constructor
    · rintro ⟨wanted, same, newest⟩
      rw [PetscRelease.name_injective (named.symm.trans same)]
      exact newest
    · intro newest
      exact ⟨_, named, newest⟩
  constructor
  · intro done
    rcases Petsc.succeeds_resolve_iff.mp done with
      ⟨skipped, _⟩ | ⟨_, release, place, found, picked, laidOut, headers, linked, same, left⟩
    · rw [used] at skipped
      cases skipped
    · have newest := (allowed release place).mp picked
      have chosen := Petsc.layout_eq_ok_iff.mp laidOut
      refine ⟨release, place, found, same, newest, chosen, headers, linked, ?_⟩
      exact left.trans (extended_of_old (old_of_notNewer newest.notNewer).1
        (Petsc.mem_of_isChosen chosen) _)
  · rintro ⟨release, place, found, same, newest, chosen, headers, linked, left⟩
    have old := (old_of_notNewer newest.notNewer).1
    apply Petsc.succeeds_resolve_iff.mpr
    refine Or.inr ⟨used, release, place, found, (allowed release place).mpr newest,
      Petsc.layout_eq_ok_iff.mpr chosen, headers, linked, same, ?_⟩
    exact left.trans (extended_of_old old (Petsc.mem_of_isChosen chosen) _).symm

/-! ## Both endings -/

/-- Headers of PETSc and all of Deal.II 6. -/
theorem contributions_six (b : Build) (release : PetscRelease) (place base : Path)
    (found : Petsc.Layout) :
    Petsc.contribution release place found true ++ contribution base true b.dealiiDebugging =
      { includePaths := [found.archHeaders, place.child "include", base.child "base/include",
          base.child "lac/include", base.child "deal.II/include"]
        libPaths := [base.child "lib"]
        libraries := ["deal_II_1d", "deal_II_2d", "deal_II_3d", "lac", "base", "petscall"].map
          (linkName b) } := by
  unfold contribution linkName
  cases b.dealiiDebugging with
  | true => rfl
  | false => rfl

/-- All of PETSc 2.2 and all of an older Deal.II. -/
theorem contributions_older (b : Build) (place base : Path) (found : Petsc.Layout) :
    Petsc.contribution .v2_2 place found false ++ contribution base false b.dealiiDebugging =
      { includePaths := [found.archHeaders, place.child "include", base.child "base/include",
          base.child "lac/include", base.child "deal.II/include"]
        libPaths := [found.libPath, base.child "lib"]
        libraries :=
          ["petscts", "petscsnes", "petscksp", "petscdm", "petscmat", "petscvec", "petsc"] ++
            ["deal_II_1d", "deal_II_2d", "deal_II_3d", "lac", "base"].map (linkName b) } := by
  unfold contribution linkName
  cases b.dealiiDebugging with
  | true => rfl
  | false => rfl

/-- A resolution succeeds in the two ways that the rules describe. -/
theorem succeeds_iff_linked {t : FileTree} {b : Build} {c d : Context}
    (used : c.skipPetsc = false) : (resolve t b).Succeeds c () d ↔ Linked t b c d := by
  rw [succeeds_resolve_iff]
  simp only [statedVersion_eq_ok_iff, succeeds_petsc_iff used]
  constructor
  · rintro ⟨path, _, _, _, configured, present, ⟨text, read, rfl⟩,
      ⟨release, place, found, rfl, newest, chosen, headers, linked, rfl⟩, rfl⟩
    rw [LinkLine.append_assoc]
    cases version : Text.startsWith "6." (Text.trimmed text) with
    | true =>
        rw [version] at newest
        rw [contributions_six]
        exact .six ⟨configured, present, read⟩ version (old_of_notNewer newest.notNewer).1 newest
          chosen headers
    | false =>
        rw [version] at newest
        have same := (old_of_notNewer newest.notNewer).2 rfl
        subst same
        rw [contributions_older]
        exact .older ⟨configured, present, read⟩ version newest chosen headers (linked version)
  · intro rule
    cases rule with
    | six known version old newest chosen headers =>
        refine ⟨_, _, _, _, known.configured, known.present, ⟨_, known.read, rfl⟩,
          ⟨_, _, _, rfl, ?_, chosen, headers, ?_, rfl⟩, ?_⟩
        · rw [version]
          exact newest
        · intro older
          rw [version] at older
          cases older
        · rw [version, LinkLine.append_assoc, contributions_six]
    | older known version newest chosen headers linked =>
        refine ⟨_, _, _, _, known.configured, known.present, ⟨_, known.read, rfl⟩,
          ⟨_, _, _, rfl, ?_, chosen, headers, fun _ => linked, rfl⟩, ?_⟩
        · rw [version]
          exact newest
        · rw [version, LinkLine.append_assoc, contributions_older]

/-- Deal.II leaves the profile alone, whether or not PETSc is left to the platform. -/
theorem profile_of_succeeds {t : FileTree} {b : Build} {c d : Context}
    (resolved : (resolve t b).Succeeds c () d) : d.profile = c.profile := by
  cases skipped : c.skipPetsc with
  | true =>
      rcases succeeds_resolve_iff.mp resolved with ⟨_, _, _, inner, _, _, _, found, rfl⟩
      rcases Petsc.succeeds_resolve_iff.mp found with ⟨_, _, rfl⟩ | ⟨used, _⟩
      · rfl
      · rw [skipped] at used
        cases used
  | false =>
      cases (succeeds_iff_linked skipped).mp resolved with
      | six => rfl
      | older => rfl

/-- With the version known, a resolution fails exactly where its PETSc does. -/
theorem result_of_known {t : FileTree} {b : Build} {c : Context} {path : Path} {text : String}
    (known : Known t c path text) :
    (resolve t b c).result =
      (petsc t b (Text.startsWith "6." (Text.trimmed text)) c).result.map (fun _ => ()) := by
  rw [(ending_resolve t b c).1, stated_of_known known]

theorem result_of_unstated {t : FileTree} {c : Context} {e : Misconfiguration}
    (cause : Unstated t c e) (b : Build) : (resolve t b c).result = .error e := by
  rw [(ending_resolve t b c).1, stated_of_unstated cause]

/-- A resolution fails for the first cause that one of the rules finds. -/
theorem result_eq_error_iff {t : FileTree} {b : Build} {c : Context} {e : Misconfiguration} :
    (resolve t b c).result = .error e ↔ Refused t b c e := by
  constructor
  · intro failed
    rcases known_or_unstated t c with ⟨path, text, known⟩ | ⟨cause, unstated⟩
    · rw [result_of_known known] at failed
      cases inner : (petsc t b (Text.startsWith "6." (Text.trimmed text)) c).result with
      | ok release =>
          rw [inner] at failed
          cases failed
      | error cause =>
          rw [inner] at failed
          cases failed
          exact .petsc known inner
    · rw [result_of_unstated unstated] at failed
      cases failed
      exact .unstated unstated
  · intro rule
    cases rule with
    | unstated cause => exact result_of_unstated cause b
    | petsc known failed =>
        rw [result_of_known known, failed]
        rfl

/-- A resolution of Deal.II ends as the rules describe, and in no other way. -/
theorem resolve_follows_rules (t : FileTree) (b : Build) (c : Context)
    (used : c.skipPetsc = false) :
    (∀ d, (resolve t b).Succeeds c () d ↔ Linked t b c d) ∧
      ∀ e, (resolve t b c).result = .error e ↔ Refused t b c e :=
  ⟨fun _ => succeeds_iff_linked used, fun _ => result_eq_error_iff⟩

/-! Deal.II in two versions, with release 2.2 below both of them. -/

def versioned : Context :=
  Context.start
    { Profile.plain with petsc22 := some ⟨"/petsc"⟩, dealii := some ⟨"dealii"⟩ } ⟨"/p"⟩ false

def versionTree (version : String) : FileTree :=
  ((FileTree.empty.makeDirectories? [] ["petsc", "include"]).bind (fun t =>
    (t.makeDirectories? [] ["petsc", "lib", "libg_c++", "linux-gnu"]).bind (fun t =>
      t.putFile? ["p", "dealii", "Version"] (Text.asciiBytes version) false))).getD FileTree.empty

def debuggingBuild : Build :=
  { Build.plain with usingDealii := true, dealiiDebugging := true }

/-- Both versions are found, the newer one on the headers alone, and without a tree nothing is. -/
theorem resolve_follows_rules_versioned :
    versioned.skipPetsc = false ∧
      Linked (versionTree "5.2") debuggingBuild versioned
        (resolve (versionTree "5.2") debuggingBuild versioned).state ∧
      Linked (versionTree " 6.1") debuggingBuild versioned
        (resolve (versionTree " 6.1") debuggingBuild versioned).state ∧
      Refused FileTree.empty debuggingBuild versioned (.pathNotFound component ⟨"/p/dealii"⟩) := by
  have old : (resolve (versionTree "5.2") debuggingBuild versioned).result = .ok () := rfl
  have six : (resolve (versionTree " 6.1") debuggingBuild versioned).result = .ok () := rfl
  have none : (resolve FileTree.empty debuggingBuild versioned).result =
      .error (.pathNotFound component ⟨"/p/dealii"⟩) := rfl
  refine ⟨rfl, ?_, ?_, ?_⟩
  · exact ((resolve_follows_rules _ _ versioned rfl).1 _).mp (Action.Succeeds.of_result old)
  · exact ((resolve_follows_rules _ _ versioned rfl).1 _).mp (Action.Succeeds.of_result six)
  · exact ((resolve_follows_rules _ _ versioned rfl).2 _).mp none

end Dealii
end HostLink
