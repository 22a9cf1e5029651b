import HostLink.Machine.Description
import HostLink.Proofs.Relocation.Effect

namespace HostLink

/-!
# Switching to versions of libraries

A switch relocates one library after another, and each relocation records its place under the
name of the library.  The names in a request are distinct, so no later relocation of a switch
writes over the place that an earlier one has recorded.
-/

namespace Host

/-- A step on the profile sees the tree and leaves it alone. -/
theorem succeeds_onProfile_iff {α : Type} {x : FileTree → Action Misconfiguration Profile α}
    {h h' : Host} {a : α} :
    (onProfile x).Succeeds h a h' ↔
      ∃ p, (x h.tree).Succeeds h.profile a p ∧ h' = { h with profile := p } :=
  Action.succeeds_onPart_iff (x := x h.tree)

/-- A relocation of a host is one of its profile, and it records the place of the library. -/
theorem relocations_of_succeeds {root base : Path} {l : Relocatable} {h h' : Host}
    (succeeds : (relocate root l base).Succeeds h () h') :
    h'.profile.relocations = h.profile.relocations.insert l.key (Path.absolute root base) := by
  rcases succeeds_onProfile_iff.mp succeeds with ⟨p, done, left⟩
  have present := Relocatable.present_of_succeeds done
  rw [left, ← done.state]
  exact Relocatable.relocations_relocate h.profile present

end Host

namespace Relocatable

theorem key_of_ofName? {name version : String} {l : Relocatable}
    (named : ofName? name version = some l) : l.key = name := by
  unfold ofName? at named
  split at named <;> cases named <;> rfl

end Relocatable

namespace Preferences

/-- A library is asked for in one version only. -/
theorem pairwise_withoutPetsc (preferences : Preferences) :
    preferences.withoutPetsc.entries.Pairwise (fun x y => x.1 ≠ y.1) :=
  preferences.withoutPetsc.sorted.imp KeyOrder.ne_of_before

theorem mem_withoutPetsc {preferences : Preferences} {library version : String}
    (asked : (library, version) ∈ preferences.entries) (other : library ≠ "petsc") :
    (library, version) ∈ preferences.withoutPetsc.entries := by
  refine List.mem_filter.mpr ⟨asked, ?_⟩
  simpa using other

end Preferences

namespace VersionTable

open Relocatable (key_of_ofName?)

theorem find?_eq_some_iff {table : VersionTable} {library version : String} {l : Relocatable}
    {path : Path} :
    table.find? library version = some (l, path) ↔
      Relocatable.ofName? library version = some l ∧
      (OrderedMap.find? table library).bind (·.find? version) = some path := by
  simp only [find?, bind, Pure.pure, Option.bind_eq_some_iff, Option.some.injEq, Prod.mk.injEq]
  constructor
  · rintro ⟨known, named, versions, listed, place, found, rfl, rfl⟩
    exact ⟨named, versions, listed, found⟩
  · rintro ⟨named, versions, listed, found⟩
    exact ⟨l, named, versions, listed, path, found, rfl, rfl⟩

/-- One entry of a request: it is switched to, or it is missing. -/
theorem succeeds_switchAll_cons_iff {table : VersionTable} {root : Path} {library version : String}
    {rest : List (String × String)} {h h' : Host} {missing : List String} :
    (switchAll table root ((library, version) :: rest)).Succeeds h missing h' ↔
      (∃ l path h₁, table.find? library version = some (l, path) ∧
        (Host.relocate root l path).Succeeds h () h₁ ∧
        (switchAll table root rest).Succeeds h₁ missing h') ∨
      (table.find? library version = none ∧
        ∃ others, missing = (library ++ "=" ++ version) :: others ∧
          (switchAll table root rest).Succeeds h others h') := by
  rw [switchAll]
  cases found : table.find? library version with
  | none =>
      simp only [Action.succeeds_bind_iff, Action.succeeds_pure_iff]
      constructor
      · rintro ⟨others, _, switched, rfl, rfl⟩
        exact Or.inr ⟨trivial, others, rfl, switched⟩
      · rintro (⟨_, _, _, impossible, _⟩ | ⟨_, others, rfl, switched⟩)
        · cases impossible
        · exact ⟨others, h', switched, rfl, rfl⟩
  | some place =>
      rcases place with ⟨l, path⟩
      rw [Action.succeeds_note_bind_iff, Action.succeeds_bind_iff]
      constructor
      · rintro ⟨_, h₁, relocated, switched⟩
        exact Or.inl ⟨l, path, h₁, rfl, relocated, switched⟩
      · rintro (⟨_, _, h₁, same, relocated, switched⟩ | ⟨impossible, _⟩)
        · cases same
          exact ⟨(), h₁, relocated, switched⟩
        · cases impossible

/-- The places of libraries that are not asked for stay recorded. -/
theorem find?_of_switchAll_of_ne {table : VersionTable} {root : Path} {key : String}
    {entries : List (String × String)} (other : ∀ x ∈ entries, x.1 ≠ key) {h h' : Host}
    {missing : List String} (switched : (switchAll table root entries).Succeeds h missing h') :
    h'.profile.relocations.find? key = h.profile.relocations.find? key := by
  induction entries generalizing h missing with
  | nil =>
      rcases Action.succeeds_pure_iff'.mp switched with ⟨_, rfl⟩
      rfl
  | cons entry rest inductionHypothesis =>
      rcases entry with ⟨library, version⟩
      have behind : ∀ x ∈ rest, x.1 ≠ key := fun x listed => other x (List.mem_cons_of_mem _ listed)
      rcases succeeds_switchAll_cons_iff.mp switched with
        ⟨l, path, h₁, found, relocated, switched⟩ | ⟨_, others, _, switched⟩
      · have named := key_of_ofName? (find?_eq_some_iff.mp found).1
        have apart : l.key ≠ key := by
          rw [named]
          exact other _ List.mem_cons_self
        rw [inductionHypothesis behind switched, Host.relocations_of_succeeds relocated,
          OrderedMap.find?_insert_of_ne _ apart]
      · exact inductionHypothesis behind switched

/-- A switch that misses nothing had every version in its table, and in the end the place of
every library is the one that the table gives. -/
theorem recorded_of_switchAll {table : VersionTable} {root : Path}
    {entries : List (String × String)} (distinct : entries.Pairwise (fun x y => x.1 ≠ y.1))
    {h h' : Host} (switched : (switchAll table root entries).Succeeds h [] h') :
    ∀ x ∈ entries, ∃ path,
      (OrderedMap.find? table x.1).bind (·.find? x.2) = some path ∧
      h'.profile.relocations.find? x.1 = some (Path.absolute root path) := by
  induction entries generalizing h with
  | nil =>
      intro x impossible
      cases impossible
  | cons entry rest inductionHypothesis =>
      rcases entry with ⟨library, version⟩
      rcases List.pairwise_cons.mp distinct with ⟨apart, distinct⟩
      rcases succeeds_switchAll_cons_iff.mp switched with
        ⟨l, path, h₁, found, relocated, switched⟩ | ⟨_, others, impossible, _⟩
      · intro x listed
        rcases List.mem_cons.mp listed with rfl | listed
        · rcases find?_eq_some_iff.mp found with ⟨named, place⟩
          refine ⟨path, place, ?_⟩
          rw [find?_of_switchAll_of_ne (fun y later => (apart y later).symm) switched,
            Host.relocations_of_succeeds relocated, key_of_ofName? named,
            OrderedMap.find?_insert_self]
        · exact inductionHypothesis distinct switched x listed
      · cases impossible

/-- A switch succeeds exactly if nothing is missing. -/
theorem succeeds_switch_iff {table : VersionTable} {machine : String}
    {preferences : Preferences} {root : Path} {h h' : Host} {a : Unit} :
    (table.switch machine preferences root).Succeeds h a h' ↔
      (table.switchAll root preferences.withoutPetsc.entries).Succeeds h [] h' := by
  unfold switch
  rw [Action.succeeds_bind_iff]
  constructor
  · rintro ⟨missing, h₁, switched, ending⟩
    cases missing with
    | nil =>
        rcases Action.succeeds_pure_iff'.mp ending with ⟨_, rfl⟩
        exact switched
    | cons _ _ => exact absurd ending Action.not_succeeds_fail
  · intro switched
    exact ⟨[], h', switched, Action.succeeds_pure_iff'.mpr ⟨rfl, rfl⟩⟩

end VersionTable
end HostLink
