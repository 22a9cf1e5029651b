import HostLink.Proofs.Resolution.Decision

namespace HostLink
namespace Chain

/-!
# Falling back along a chain

A chain is cut at the first occurrence of a version, and the first version that is installed is
taken from what is left.  Both look for the first element of a list with a property, and
`FirstWith` says where the list is split then.

Of the versions nothing is asked but a test for equality, which may be any test.  They may
repeat, and at any place of the chain an installation may be missing or lead nowhere.
-/

variable {ν : Type}

/-- The first element of a list with a property, with what stands before and behind it. -/
structure FirstWith (property : ν → Prop) (all before : List ν) (v : ν) (behind : List ν) :
    Prop where
  split : all = before ++ v :: behind
  holds : property v
  none : ∀ u ∈ before, ¬ property u

theorem FirstWith.head {property : ν → Prop} {v : ν} (holds : property v) (behind : List ν) :
    FirstWith property (v :: behind) [] v behind :=
  ⟨rfl, holds, nofun⟩

theorem exists_firstWith {property : ν → Prop} {all : List ν} (some : ∃ v ∈ all, property v) :
    ∃ before v behind, FirstWith property all before v behind := by
  induction all with
  | nil =>
      rcases some with ⟨_, impossible, _⟩
      cases impossible
  | cons u all inductionHypothesis =>
      by_cases own : property u
      · exact ⟨[], u, all, .head own all⟩
      · rcases some with ⟨v, listed, holds⟩
        have later : v ∈ all := by
          rcases List.mem_cons.mp listed with rfl | later
          · exact absurd holds own
          · exact later
        rcases inductionHypothesis ⟨v, later, holds⟩ with ⟨before, w, behind, first⟩
        refine ⟨u :: before, w, behind, ?_, first.holds, ?_⟩
        · rw [first.split, List.cons_append]
        · exact List.forall_mem_cons.mpr ⟨own, first.none⟩

/-! ## The chain from a version on -/

section

variable [BEq ν]

/-- A version counts as an occurrence of another one. -/
def IsOccurrence (start v : ν) : Prop :=
  (v == start) = true

/-- What is left of a list from a version on: all from its first occurrence, or nothing. -/
inductive LeftFrom (start : ν) (all : List ν) : List ν → Prop where
  | found {ahead : List ν} {v : ν} {behind : List ν}
      (first : FirstWith (IsOccurrence start) all ahead v behind) :
      LeftFrom start all (v :: behind)
  | absent (none : ∀ u ∈ all, ¬ IsOccurrence start u) : LeftFrom start all []

theorem versions_startingAt_of_first {chain : Chain ν} {start v : ν} {ahead behind : List ν}
    (first : FirstWith (IsOccurrence start) chain.versions ahead v behind) :
    (chain.startingAt start).versions = v :: behind := by
  have passed : ∀ u ∈ ahead, (!(u == start)) = true := by
    intro u early
    rw [Bool.eq_false_iff.mpr (first.none u early), Bool.not_false]
  unfold startingAt
  rw [first.split, List.dropWhile_append_of_pos passed, List.dropWhile_cons,
    show (v == start) = true from first.holds, Bool.not_true, if_neg Bool.false_ne_true]

theorem leftFrom_startingAt (chain : Chain ν) (start : ν) :
    LeftFrom start chain.versions (chain.startingAt start).versions := by
  by_cases occurs : ∃ v ∈ chain.versions, IsOccurrence start v
  · rcases exists_firstWith occurs with ⟨ahead, v, behind, first⟩
    rw [versions_startingAt_of_first first]
    exact .found first
  · have none : ∀ u ∈ chain.versions, ¬ IsOccurrence start u :=
      fun u listed same => occurs ⟨u, listed, same⟩
    rw [(startingAt_eq_nil_iff chain start).mpr none]
    exact .absent none

/-- A chain from a version on is exactly what is left of its versions. -/
theorem versions_startingAt_iff {chain : Chain ν} {start : ν} {rest : List ν} :
    (chain.startingAt start).versions = rest ↔ LeftFrom start chain.versions rest := by
  constructor
  · intro same
    rw [← same]
    exact leftFrom_startingAt chain start
  · intro left
    cases left with
    | found first => exact versions_startingAt_of_first first
    | absent none => exact (startingAt_eq_nil_iff chain start).mpr none

/-- Whatever is left starts with an occurrence of the version, so it is left again. -/
theorem startingAt_startingAt (chain : Chain ν) (start : ν) :
    (chain.startingAt start).startingAt start = chain.startingAt start := by
  have left := leftFrom_startingAt chain start
  generalize chain.startingAt start = kept at left ⊢
  rcases kept with ⟨rest⟩
  apply congrArg Chain.mk
  change (startingAt ⟨rest⟩ start).versions = rest
  rw [versions_startingAt_iff]
  cases left with
  | found first => exact .found (.head first.holds _)
  | absent _ => exact .absent nofun

end

/-! ## The version that is taken -/

/-- A version is installed in a directory. -/
def InstalledAt (t : FileTree) (installation : ν → Option Path) (v : ν) (place : Path) : Prop :=
  installation v = some place ∧ t.isDirectory place = true

/-- The first version of a list that is installed, and where. -/
def IsFirstInstalled (t : FileTree) (installation : ν → Option Path) (all before : List ν)
    (v : ν) (behind : List ν) (place : Path) : Prop :=
  FirstWith (fun u => ∃ own, InstalledAt t installation u own) all before v behind ∧
    InstalledAt t installation v place

variable {t : FileTree} {installation : ν → Option Path}

theorem firstInstalled_eq_none_iff_not_exists {all : List ν} :
    firstInstalled t installation all = none ↔
      ∀ v ∈ all, ¬ ∃ place, InstalledAt t installation v place := by
  rw [firstInstalled_eq_none_iff]
  apply forall₂_congr
  intro v _
  simp [InstalledAt]

variable {ε σ : Type} {s s' : σ}

theorem succeeds_installed_some_iff {chain : Chain ν} {v : ν} {place : Path} :
    (chain.installed t installation : Action ε σ _).Succeeds s (some (v, place)) s' ↔
      (∃ before behind, IsFirstInstalled t installation chain.versions before v behind place) ∧
        s' = s := by
  rw [installed, succeeds_select_iff, eq_comm, firstInstalled_eq_some_iff]
  apply and_congr_left'
  constructor
  · rintro ⟨configured, directory, before, behind, split, none⟩
    have own : InstalledAt t installation v place := ⟨configured, directory⟩
    exact ⟨before, behind,
      ⟨split, ⟨place, own⟩, firstInstalled_eq_none_iff_not_exists.mp none⟩, own⟩
  · rintro ⟨before, behind, first, configured, directory⟩
    exact ⟨configured, directory, before, behind, first.split,
      firstInstalled_eq_none_iff_not_exists.mpr first.none⟩

theorem succeeds_installed_none_iff {chain : Chain ν} :
    (chain.installed t installation : Action ε σ _).Succeeds s none s' ↔
      (∀ v ∈ chain.versions, ¬ ∃ place, InstalledAt t installation v place) ∧ s' = s := by
  rw [installed, succeeds_select_iff, eq_comm, firstInstalled_eq_none_iff_not_exists]

/-! ## Both together -/

/-- A chain from a version on is what is left of it from the first occurrence, and the search
takes the first version in there that is installed.  It changes nothing and cannot fail, and
what stands ahead of the version is never taken. -/
theorem installed_startingAt [BEq ν] (chain : Chain ν) (start : ν) (t : FileTree)
    (installation : ν → Option Path) :
    (∀ rest, (chain.startingAt start).versions = rest ↔ LeftFrom start chain.versions rest) ∧
      (chain.startingAt start).startingAt start = chain.startingAt start ∧
      (∀ (s s' : σ) v place,
        ((chain.startingAt start).installed t installation : Action ε σ _).Succeeds s
            (some (v, place)) s' ↔
          (∃ before behind, IsFirstInstalled t installation (chain.startingAt start).versions
            before v behind place) ∧ s' = s) ∧
      (∀ s s' : σ,
        ((chain.startingAt start).installed t installation : Action ε σ _).Succeeds s none s' ↔
          (∀ v ∈ (chain.startingAt start).versions,
            ¬ ∃ place, InstalledAt t installation v place) ∧ s' = s) ∧
      (∀ (s : σ), ∃ found,
        ((chain.startingAt start).installed t installation : Action ε σ _).Succeeds s found s ∧
          ∀ v place, found = some (v, place) →
            ∃ ahead w rest before behind,
              FirstWith (IsOccurrence start) chain.versions ahead w rest ∧
                w :: rest = before ++ v :: behind) := by
  refine ⟨fun _ => versions_startingAt_iff, startingAt_startingAt chain start,
    fun _ _ _ _ => succeeds_installed_some_iff, fun _ _ => succeeds_installed_none_iff, ?_⟩
  intro s
  let kept := (chain.startingAt start).versions
  have run : ((chain.startingAt start).installed t installation : Action ε σ _).Succeeds s
      (firstInstalled t installation kept) s := succeeds_select_iff.mpr ⟨rfl, rfl⟩
  refine ⟨_, run, ?_⟩
  intro v place found
  rw [found] at run
  rcases (succeeds_installed_some_iff.mp run).1 with ⟨before, behind, first, _⟩
  have left := leftFrom_startingAt chain start
  generalize (chain.startingAt start).versions = rest at left first
  cases left with
  | found cut => exact ⟨_, _, _, before, behind, cut, first.split⟩
  | absent _ =>
      have impossible := first.split
      simp at impossible

end Chain
end HostLink
