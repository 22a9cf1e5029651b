import HostLink.Proofs.Action
import HostLink.Proofs.Glob.Found

namespace HostLink
namespace Glob

/-!
# Removing what fits a pattern

The paths that fit a pattern are collected first, and then what they denote is removed one by
one.  In between the tree gets thinner, and several paths may denote one file.  Still the files
that are gone in the end are those that the paths denoted at the start, and the count is their
number: a file that was removed is not denoted any more, and no path is led elsewhere by it.
So a second removal finds nothing that is left to remove.
-/

open FileTree (Thinned Without)

variable {ε : Type}

/-- What the paths of a list denote. -/
def Denoted (t : FileTree) (found : List Path) (location : Location) : Prop :=
  ∃ path ∈ found, t.locate path = .ok location

/-- A path either denotes a file, which is removed and counted, or it is passed over. -/
theorem succeeds_removeAll_cons_iff {path : Path} {rest : List Path} {t t' : FileTree}
    {count : Nat} :
    (removeAll (path :: rest) : Action ε FileTree Nat).Succeeds t count t' ↔
      (∃ location others, t.locate path = .ok location ∧ t.holdsFile location = true ∧
        count = others + 1 ∧
        (removeAll rest : Action ε FileTree Nat).Succeeds (t.eraseFile location) others t') ∨
      ((∀ location, t.locate path = .ok location → t.holdsFile location = false) ∧
        (removeAll rest : Action ε FileTree Nat).Succeeds t count t') := by
  rw [removeAll, Action.succeeds_state_bind_iff]
  cases removed : t.remove path with
  | ok left =>
      rcases FileTree.remove_eq_ok_iff.mp removed with ⟨location, located, file, rfl⟩
      simp only [Action.succeeds_update_bind_iff]
      simp only [Action.succeeds_bind_iff, Action.succeeds_pure_iff]
      constructor
      · rintro ⟨others, _, run, rfl, rfl⟩
        exact Or.inl ⟨location, others, located, file, rfl, run⟩
      · rintro (⟨other, others, located', _, rfl, run⟩ | ⟨none, _⟩)
        · cases located.symm.trans located'
          exact ⟨others, _, run, rfl, rfl⟩
        · rw [none location located] at file
          cases file
  | error cause =>
      have none := FileTree.remove_eq_error_iff.mp ⟨cause, removed⟩
      simp only [Action.succeeds_note_bind_iff]
      constructor
      · exact fun run => Or.inr ⟨none, run⟩
      · rintro (⟨location, _, located, file, _⟩ | ⟨_, run⟩)
        · rw [none location located] at file
          cases file
        · exact run

/-- A file that is removed first takes nothing from what the other paths denote. -/
theorem without_cons {path : Path} {rest : List Path} {t t' : FileTree} {location : Location}
    (located : t.locate path = .ok location) (file : t.holdsFile location = true)
    (others : Without (t.eraseFile location) (Denoted (t.eraseFile location) rest) t') :
    Without t (Denoted t (path :: rest)) t' := by
  have first := FileTree.without_eraseFile file
  have same : ∀ other, other ≠ location →
      (t.eraseFile location).entryAt other = t.entryAt other :=
    fun other own => first.kept other (fun taken => own taken.2)
  have missing := first.gone location file rfl
  refine ⟨others.workDir, ?_, ?_⟩
  · rintro other held ⟨q, listed, denotes⟩
    by_cases own : other = location
    · subst own
      rcases others.thinned.entries other with kept | ⟨gone, _⟩
      · rw [kept, missing]
      · exact gone
    · have later : q ∈ rest := by
        rcases List.mem_cons.mp listed with rfl | later
        · cases located.symm.trans denotes
          exact absurd rfl own
        · exact later
      have held' : (t.eraseFile location).holdsFile other = true := by
        rw [FileTree.holdsFile_congr (same other own)]
        exact held
      have present : ((t.eraseFile location).entryAt other).isSome = true := by
        rw [same other own]
        exact FileTree.present_of_holdsFile held
      exact others.gone other held'
        ⟨q, later, first.thinned.locate_eq_ok_iff.mpr ⟨denotes, present⟩⟩
  · intro other kept
    have own : other ≠ location := by
      rintro rfl
      exact kept ⟨file, path, List.mem_cons_self, located⟩
    rw [← same other own]
    apply others.kept
    rintro ⟨held, q, listed, denotes⟩
    rw [FileTree.holdsFile_congr (same other own)] at held
    exact kept ⟨held, q, List.mem_cons_of_mem _ listed,
      (first.thinned.locate_eq_ok_iff.mp denotes).1⟩

/-- A path that denotes no file takes nothing away. -/
theorem without_cons_of_none {path : Path} {rest : List Path} {t t' : FileTree}
    (none : ∀ location, t.locate path = .ok location → t.holdsFile location = false)
    (others : Without t (Denoted t rest) t') : Without t (Denoted t (path :: rest)) t' := by
  refine ⟨others.workDir, ?_, ?_⟩
  · rintro location held ⟨q, listed, located⟩
    rcases List.mem_cons.mp listed with rfl | later
    · rw [none location located] at held
      cases held
    · exact others.gone location held ⟨q, later, located⟩
  · intro location kept
    apply others.kept
    rintro ⟨held, q, listed, located⟩
    exact kept ⟨held, q, List.mem_cons_of_mem _ listed, located⟩

/-- A run over paths removes the files that they denote at its start, and counts them. -/
theorem removeAll_succeeds (found : List Path) (t : FileTree) :
    ∃ t', Without t (Denoted t found) t' ∧
      (removeAll found : Action ε FileTree Nat).Succeeds t (t.lost t').length t' := by
  induction found generalizing t with
  | nil =>
      refine ⟨t, ⟨rfl, ?_, fun _ _ => rfl⟩, ?_⟩
      · rintro location _ ⟨path, listed, _⟩
        cases listed
      · rw [FileTree.lost_self]
        exact Action.succeeds_pure_iff'.mpr ⟨rfl, rfl⟩
  | cons path rest inductionHypothesis =>
      by_cases denotes : ∃ location, t.locate path = .ok location ∧ t.holdsFile location = true
      · rcases denotes with ⟨location, located, file⟩
        rcases inductionHypothesis (t.eraseFile location) with ⟨t', others, run⟩
        refine ⟨t', without_cons located file others, ?_⟩
        rw [FileTree.length_lost_eraseFile file others.thinned]
        exact succeeds_removeAll_cons_iff.mpr (Or.inl ⟨location, _, located, file, rfl, run⟩)
      · have none : ∀ location, t.locate path = .ok location → t.holdsFile location = false :=
          fun location located =>
            Bool.eq_false_iff.mpr (fun file => denotes ⟨location, located, file⟩)
        rcases inductionHypothesis t with ⟨t', others, run⟩
        exact ⟨t', without_cons_of_none none others,
          succeeds_removeAll_cons_iff.mpr (Or.inr ⟨none, run⟩)⟩

/-- Where the paths denote no file, nothing happens. -/
theorem removeAll_succeeds_of_none {found : List Path} {t : FileTree}
    (none : ∀ path ∈ found, ∀ location, t.locate path = .ok location →
      t.holdsFile location = false) :
    (removeAll found : Action ε FileTree Nat).Succeeds t 0 t := by
  induction found with
  | nil => exact Action.succeeds_pure_iff'.mpr ⟨rfl, rfl⟩
  | cons path rest inductionHypothesis =>
      refine succeeds_removeAll_cons_iff.mpr (Or.inr ⟨none path List.mem_cons_self, ?_⟩)
      exact inductionHypothesis (fun other listed => none other (List.mem_cons_of_mem _ listed))

/-! ## Removing by a pattern -/

theorem succeeds_removeMatching_iff {pattern : String} {t t' : FileTree} {count : Nat} :
    (removeMatching pattern : Action ε FileTree Nat).Succeeds t count t' ↔
      (∃ found, paths t pattern = .ok found ∧
        (removeAll found : Action ε FileTree Nat).Succeeds t count t') ∨
      ((∃ e, paths t pattern = .error e) ∧ count = 0 ∧ t' = t) := by
  rw [removeMatching, Action.succeeds_state_bind_iff]
  cases searched : paths t pattern with
  | ok found => simp
  | error e => simp

/-- What some path denotes that fits a pattern. -/
def Reached (t : FileTree) (pattern : String) (location : Location) : Prop :=
  ∃ path, Matches t pattern path ∧ t.locate path = .ok location

theorem denoted_paths {t : FileTree} {pattern : String} {found : List Path}
    (searched : paths t pattern = .ok found) : Denoted t found = Reached t pattern := by
  funext location
  simp only [Denoted, Reached, mem_paths_iff searched]

/-- A text that is no pattern reaches nothing. -/
theorem not_reached_of_error {t : FileTree} {pattern : String} {e : InvalidPattern}
    (searched : paths t pattern = .error e) (location : Location) :
    ¬ Reached t pattern location := by
  rintro ⟨path, ⟨query, read, _⟩, _⟩
  rcases paths_eq_error_iff.mp ⟨e, searched⟩ with ⟨fault, unread⟩
  rw [unread] at read
  cases read

theorem Reached.of_thinned {t t' : FileTree} (thinned : Thinned t t') {pattern : String}
    {location : Location} (reached : Reached t' pattern location) :
    Reached t pattern location := by
  rcases reached with ⟨path, fitting, located⟩
  exact ⟨path, fitting.of_thinned thinned, (thinned.locate_eq_ok_iff.mp located).1⟩

/-- A run by a pattern removes the files that it reaches at its start, and counts them. -/
theorem removeMatching_succeeds (pattern : String) (t : FileTree) :
    ∃ t', Without t (Reached t pattern) t' ∧
      (removeMatching pattern : Action ε FileTree Nat).Succeeds t (t.lost t').length t' := by
  cases searched : paths t pattern with
  | ok found =>
      rcases @removeAll_succeeds ε found t with ⟨t', without, run⟩
      rw [denoted_paths searched] at without
      exact ⟨t', without, succeeds_removeMatching_iff.mpr (Or.inl ⟨found, searched, run⟩)⟩
  | error e =>
      refine ⟨t, ⟨rfl, ?_, fun _ _ => rfl⟩, ?_⟩
      · exact fun location _ reached => absurd reached (not_reached_of_error searched location)
      · rw [FileTree.lost_self]
        exact succeeds_removeMatching_iff.mpr (Or.inr ⟨⟨e, searched⟩, rfl, rfl⟩)

/-- Where a pattern reaches no file, nothing happens. -/
theorem removeMatching_succeeds_of_none {pattern : String} {t : FileTree}
    (none : ∀ location, Reached t pattern location → t.holdsFile location = false) :
    (removeMatching pattern : Action ε FileTree Nat).Succeeds t 0 t := by
  apply succeeds_removeMatching_iff.mpr
  cases searched : paths t pattern with
  | ok found =>
      refine Or.inl ⟨found, rfl, removeAll_succeeds_of_none ?_⟩
      intro path listed location located
      exact none location ⟨path, (mem_paths_iff searched).mp listed, located⟩
  | error e => exact Or.inr ⟨⟨e, rfl⟩, rfl, rfl⟩

/-- After a removal no file is left that the pattern reaches. -/
theorem holdsFile_of_reached {pattern : String} {t t' : FileTree}
    (without : Without t (Reached t pattern) t') {location : Location}
    (reached : Reached t' pattern location) : t'.holdsFile location = false := by
  apply Bool.eq_false_iff.mpr
  intro held
  have present := FileTree.present_of_holdsFile held
  rw [without.gone location (without.thinned.holdsFile held)
    (reached.of_thinned without.thinned)] at present
  cases present

/-- Removing by a pattern always succeeds.  It removes the files that the fitting paths denote
and nothing else, and its count is the number of files that are gone.  Nothing is left for a
second time, and nothing happens for a text that is no pattern. -/
theorem removal_of_matching (pattern : String) (t : FileTree) :
    ∃ count t', (removeMatching pattern : Action ε FileTree Nat).Succeeds t count t' ∧
      Without t (fun location => ∃ path, Matches t pattern path ∧ t.locate path = .ok location) t' ∧
      count = (t.lost t').length ∧
      (removeMatching pattern : Action ε FileTree Nat).Succeeds t' 0 t' ∧
      ∀ fault, Query.read pattern = .error fault → count = 0 ∧ t' = t := by
  rcases @removeMatching_succeeds ε pattern t with ⟨t', without, run⟩
  have again : (removeMatching pattern : Action ε FileTree Nat).Succeeds t' 0 t' :=
    removeMatching_succeeds_of_none (fun _ => holdsFile_of_reached without)
  refine ⟨(t.lost t').length, t', run, without, rfl, again, ?_⟩
  intro fault unread
  rcases succeeds_removeMatching_iff.mp run with ⟨found, searched, _⟩ | ⟨_, none, same⟩
  · rcases (@paths_eq_error_iff t pattern).mpr ⟨fault, unread⟩ with ⟨e, failed⟩
    rw [failed] at searched
    cases searched
  · exact ⟨none, same⟩

end Glob
end HostLink
