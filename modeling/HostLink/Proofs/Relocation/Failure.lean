import HostLink.Host
import HostLink.Proofs.Relocation.Effect

namespace HostLink
namespace Relocatable

/-!
# What a failing relocation leaves

Every relocation looks for the place of the library before it changes anything, and four of
the five cannot fail after that.  So their failures leave the profile as it was.

A relocation of Boost goes on to read the version and to look for a library file, and by then
it has dropped what the profile said about Boost.  If it fails there, the profile names no
Boost library any more, its search paths are those that had nothing to do with Boost and the new
ones, and the new place is on record although nothing was found in it.
-/

/-! ## Why Boost cannot be used -/

/-- What a relocation of Boost finds out about a place that is there: the suffix of the library,
once the version is read. -/
def boostSuffix (t : FileTree) (version : String) (base : Path) : Except Misconfiguration String :=
  match Boost.hasFlatHeaders version with
  | .error e => .error e
  | .ok _ => Boost.suffix t (base.child "lib")

/-- What can be wrong with Boost in a place that is there. -/
inductive BoostFault (t : FileTree) (version : String) (base : Path) : Misconfiguration → Prop
  | version (unread : Boost.Number.ofText? (Boost.versionHead version) = none) :
      BoostFault t version base (.invalidVersion "Boost" version)
  | library {flat : Bool} {wanted : String} (read : Boost.hasFlatHeaders version = .ok flat)
      (missing : Boost.suffix t (base.child "lib") =
        .error (.libraryNotFound "Boost" wanted (base.child "lib"))) :
      BoostFault t version base (.libraryNotFound "Boost" wanted (base.child "lib"))

theorem hasFlatHeaders_eq_error_iff {version : String} {e : Misconfiguration} :
    Boost.hasFlatHeaders version = .error e ↔
      Boost.Number.ofText? (Boost.versionHead version) = none ∧
        e = .invalidVersion "Boost" version := by
  unfold Boost.hasFlatHeaders
  cases Boost.Number.ofText? (Boost.versionHead version) with
  | some number => simp
  | none =>
      simp only [Except.error.injEq, true_and]
      exact eq_comm

theorem firstFile?_error {t : FileTree} {libPath : Path} {extension : String}
    {e : Misconfiguration} (failed : Boost.firstFile? t libPath extension = .error e) :
    ∃ wanted, e = .libraryNotFound "Boost" wanted libPath := by
  unfold Boost.firstFile? at failed
  split at failed
  · cases failed
  · cases failed
    exact ⟨_, rfl⟩

/-- Whatever keeps the suffix from being found is reported as a missing library. -/
theorem suffix_error {t : FileTree} {libPath : Path} {e : Misconfiguration}
    (failed : Boost.suffix t libPath = .error e) :
    ∃ wanted, e = .libraryNotFound "Boost" wanted libPath := by
  unfold Boost.suffix at failed
  cases shared : Boost.firstFile? t libPath "so" with
  | error cause =>
      rw [shared] at failed
      cases failed
      exact firstFile?_error shared
  | ok first =>
      rw [shared] at failed
      cases first with
      | some path => cases failed
      | none =>
          cases static : Boost.firstFile? t libPath "a" with
          | error cause =>
              simp only [static] at failed
              cases failed
              exact firstFile?_error static
          | ok second =>
              simp only [static] at failed
              cases second with
              | some path => cases failed
              | none =>
                  cases failed
                  exact ⟨_, rfl⟩

theorem boostSuffix_eq_error_iff {t : FileTree} {version : String} {base : Path}
    {e : Misconfiguration} :
    boostSuffix t version base = .error e ↔ BoostFault t version base e := by
  unfold boostSuffix
  constructor
  · intro failed
    split at failed
    case h_1 unread =>
      cases failed
      rcases hasFlatHeaders_eq_error_iff.mp unread with ⟨illegible, rfl⟩
      exact .version illegible
    case h_2 read =>
      rcases suffix_error failed with ⟨wanted, rfl⟩
      exact .library read failed
  · intro fault
    cases fault with
    | version unread => rw [hasFlatHeaders_eq_error_iff.mpr ⟨unread, rfl⟩]
    | library read missing =>
        rw [read]
        exact missing

/-! ## The profile between dropping and adding -/

/-- Dropping changes the record of places and the two lists of search paths. -/
theorem cleared_eq (l : Relocatable) (base : Path) (p : Profile) :
    l.cleared base p = { p with
      relocations := p.relocations.insert l.key base
      includePaths := p.includePaths.filter (l.keeps .headers (p.relocations.find? l.key))
      libPaths := p.libPaths.filter (l.keeps .libraries (p.relocations.find? l.key)) } := by
  have frame : ∃ relocations includePaths libPaths, l.cleared base p = { p with
      relocations := relocations, includePaths := includePaths, libPaths := libPaths } := by
    unfold cleared Profile.recordPlace
    cases l.dropsMentions .libraries <;> cases p.relocations.find? l.key <;> exact ⟨_, _, _, rfl⟩
  have relocations := relocations_cleared l base p
  have headers := paths_cleared l base p .headers
  have libraries := paths_cleared l base p .libraries
  rcases frame with ⟨_, _, _, left⟩
  rw [left] at relocations headers libraries ⊢
  dsimp only [Profile.paths] at relocations headers libraries
  rw [relocations, headers, libraries]

/-- The profile that is left when Boost was dropped and could not be added. -/
def withoutBoost (version : String) (base : Path) (p : Profile) : Profile :=
  let previous := p.relocations.find? "boost"
  { p with
    relocations := p.relocations.insert "boost" base
    includePaths :=
      p.includePaths.filter ((boost version).keeps .headers previous) ++
        (boost version).added base .headers
    libPaths :=
      p.libPaths.filter ((boost version).keeps .libraries previous) ++
        (boost version).added base .libraries
    libraries := namesWithoutStart "boost_" p.libraries }

theorem dropBoost_eq (version : String) (base : Path) (p : Profile) :
    dropBoost base p = { (boost version).cleared base p with
      libraries := namesWithoutStart "boost_" p.libraries } := by
  simp only [dropBoost, cleared, Profile.recordPlace, key]
  cases p.relocations.find? "boost" <;> rfl

/-- With the place there, Boost is dropped and replaced as far as this goes without its suffix,
and its library is added if the suffix is found. -/
theorem relocateBoost_of_present {t : FileTree} {base : Path} (version : String) (p : Profile)
    (present : t.present base = true) :
    (relocateBoost t version base p).result = (boostSuffix t version base).map (fun _ => ()) ∧
      (relocateBoost t version base p).state =
        match boostSuffix t version base with
        | .error _ => withoutBoost version base p
        | .ok suffix => (withoutBoost version base p).addLibraries [Boost.library ++ suffix] := by
  have accepted : t.require base "Boost" = .ok () := FileTree.require_eq_ok_iff.mpr present
  have dropped := dropBoost_eq version base p
  rw [cleared_eq] at dropped
  simp only [relocateBoost, accepted, boostSuffix]
  -- Boost is dropped before the version is read, so a failure starts from there in both cases.
  cases flat : Boost.hasFlatHeaders version with
  | error e =>
      have left : dropBoost base p = withoutBoost version base p := by
        rw [dropped]
        simp only [withoutBoost, added, flat, Except.toOption, Option.map_none,
          Option.toList_none, List.append_nil]
        rfl
      exact ⟨rfl, left⟩
  | ok flatness =>
      have left :
          ((dropBoost base p).addInclude (Boost.headerPath base version flatness)).addLibPath
            (base.child "lib") = withoutBoost version base p := by
        rw [dropped]
        simp only [withoutBoost, added, flat, Except.toOption, Option.map_some,
          Option.toList_some]
        rfl
      cases Boost.suffix t (base.child "lib") with
      | error e => exact ⟨rfl, left⟩
      | ok suffix =>
          rw [← left]
          exact ⟨rfl, rfl⟩

/-! ## Failures -/

/-- How a relocation can fail, and the profile that it leaves. -/
inductive LeftByFailure (t : FileTree) (base : Path) (p : Profile) :
    Relocatable → Misconfiguration → Profile → Prop
  /-- Without the place, nothing is touched. -/
  | untouched {l : Relocatable} (absent : t.present base = false) :
      LeftByFailure t base p l (.pathNotFound l.component base) p
  /-- Boost is missed after it was dropped. -/
  | stripped {version : String} {e : Misconfiguration} (present : t.present base = true)
      (fault : BoostFault t version base e) :
      LeftByFailure t base p (.boost version) e (withoutBoost version base p)

theorem relocateBoost_fails_iff {t : FileTree} {version : String} {base : Path} {p p' : Profile}
    {e : Misconfiguration} (present : t.present base = true) :
    (relocateBoost t version base p).result = .error e ∧
        (relocateBoost t version base p).state = p' ↔
      BoostFault t version base e ∧ p' = withoutBoost version base p := by
  rcases relocateBoost_of_present version p present with ⟨result, state⟩
  rw [result, state, ← boostSuffix_eq_error_iff]
  cases boostSuffix t version base with
  | error cause =>
      change Except.error cause = Except.error e ∧ withoutBoost version base p = p' ↔ _
      rw [Except.error.injEq, Except.error.injEq]
      exact and_congr_right (fun _ => eq_comm)
  | ok suffix =>
      constructor
      · rintro ⟨failed, _⟩
        cases failed
      · rintro ⟨failed, _⟩
        cases failed

/-- The failures of a relocation are those for want of the place and the faults of Boost. -/
theorem relocate_fails_iff {t : FileTree} {l : Relocatable} {base : Path} {p p' : Profile}
    {e : Misconfiguration} :
    (l.relocate t base p).result = .error e ∧ (l.relocate t base p).state = p' ↔
      LeftByFailure t base p l e p' := by
  cases present : t.present base with
  | false =>
      rw [relocate_of_absent p present]
      constructor
      · rintro ⟨failed, rfl⟩
        cases failed
        exact .untouched present
      · intro left
        cases left with
        | untouched _ => exact ⟨rfl, rfl⟩
        | stripped other _ =>
            rw [present] at other
            cases other
  | true =>
      have accepted : ∀ component, t.require base component = .ok () :=
        fun _ => FileTree.require_eq_ok_iff.mpr present
      cases l with
      | boost version =>
          refine (relocateBoost_fails_iff present).trans ?_
          constructor
          · rintro ⟨fault, rfl⟩
            exact .stripped present fault
          · intro left
            cases left with
            | untouched absent =>
                rw [present] at absent
                cases absent
            | stripped _ fault => exact ⟨fault, rfl⟩
      | hdf5 | xerces | parmetis | xsd =>
          constructor
          · rintro ⟨failed, _⟩
            simp only [relocate, accepted] at failed
            cases failed
          · intro left
            cases left with
            | untouched absent =>
                rw [present] at absent
                cases absent

/-! ## All or nothing -/

/-- A failing relocation leaves everything as it was, unless Boost is relocated to a place that
is there; then the profile is left without Boost.  The same holds for a relocation among the
steps of a machine, which touches no file either. -/
theorem relocation_failure (l : Relocatable) :
    (∀ t base p e p',
      (l.relocate t base p).result = .error e ∧ (l.relocate t base p).state = p' ↔
        LeftByFailure t base p l e p') ∧
      ∀ root base h e h',
        (Host.relocate root l base h).result = .error e ∧ (Host.relocate root l base h).state = h' ↔
          LeftByFailure h.tree (Path.absolute root base) h.profile l e h'.profile ∧
            h'.tree = h.tree := by
  refine ⟨fun _ _ _ _ _ => relocate_fails_iff, ?_⟩
  rintro root base h e ⟨tree, profile⟩
  unfold Host.relocate Host.onProfile
  rw [Action.onPart_result, Action.onPart_state, ← relocate_fails_iff, Host.mk.injEq, and_assoc]
  exact and_congr_right (fun _ => and_comm.trans (and_congr_right (fun _ => eq_comm)))

/-- A place that holds nothing. -/
def vacantTree : FileTree :=
  (FileTree.empty.makeDirectories? [] ["vacant"]).getD FileTree.empty

/-- A machine with Boost in the usual place. -/
def usualBoost : Profile :=
  { Profile.plain with
    includePaths := [⟨"/usr/include/boost"⟩]
    libraries := ["boost_serialization"] }

/-- Not every failing relocation leaves the profile as it was. -/
theorem not_forall_unchanged :
    ¬ ∀ (t : FileTree) (l : Relocatable) (base : Path) (p : Profile) (e : Misconfiguration),
      (l.relocate t base p).result = .error e → (l.relocate t base p).state = p := by
  intro unchanged
  have same := unchanged vacantTree (.boost "latest") ⟨"/vacant"⟩ usualBoost
    (.invalidVersion "Boost" "latest") (by rfl)
  have fewer := congrArg Profile.libraries same
  revert fewer
  decide

/-- A version that cannot be read costs the machine its Boost. -/
theorem relocation_failure_vacant :
    ((relocate vacantTree (.boost "latest") ⟨"/vacant"⟩ usualBoost).result =
        .error (.invalidVersion "Boost" "latest") ∧
      (relocate vacantTree (.boost "latest") ⟨"/vacant"⟩ usualBoost).state =
        withoutBoost "latest" ⟨"/vacant"⟩ usualBoost) ∧
      (withoutBoost "latest" ⟨"/vacant"⟩ usualBoost).includePaths = [] ∧
      (withoutBoost "latest" ⟨"/vacant"⟩ usualBoost).libraries = [] := by
  refine ⟨?_, by decide, by decide⟩
  exact ((relocation_failure (.boost "latest")).1 _ _ _ _ _).mpr
    (.stripped (by decide) (.version (by decide)))

end Relocatable
end HostLink
