import HostLink.Proofs.Relocation.Effect
import Mathlib.Data.List.Induction

namespace HostLink

/-!
# Runs of relocations

A run is a list of calls, each with the tree it finds, a library and a place.  A call that
fails ends nothing, and the next one starts from the profile that it leaves.

Search paths do not say where they come from, and two calls may add the same one.  So a run is
accompanied by a ledger, which writes to every entry the number of the call that added it.
Without these numbers the ledger is the profile.
-/

namespace Relocatable

/-- One relocation of a run. -/
structure Call where
  tree : FileTree
  library : Relocatable
  base : Path

namespace Call

/-- How a call ends, and the profile it leaves. -/
def outcome (c : Call) (p : Profile) : Outcome Misconfiguration Profile Unit :=
  c.library.relocate c.tree c.base p

/-- Whether the place is there.  A call without its place does nothing. -/
def findsPlace (c : Call) : Bool :=
  c.tree.present c.base

end Call

/-- The profile after some calls, whether they succeed or fail. -/
def runAll (p : Profile) (calls : List Call) : Profile :=
  calls.foldl (fun p c => (c.outcome p).state) p

/-- The place of the last call for a library that found its place. -/
def lastBase? (key : String) (calls : List Call) : Option Path :=
  (calls.filter (fun c => c.library.key == key && c.findsPlace)).getLast?.map Call.base

@[simp]
theorem runAll_snoc (p : Profile) (calls : List Call) (c : Call) :
    runAll p (calls ++ [c]) = (c.outcome (runAll p calls)).state := by
  simp only [runAll, List.foldl_append, List.foldl_cons, List.foldl_nil]

theorem lastBase?_snoc (key : String) (calls : List Call) (c : Call) :
    lastBase? key (calls ++ [c]) =
      if c.library.key = key ∧ c.findsPlace = true then some c.base else lastBase? key calls := by
  unfold lastBase?
  by_cases latest : c.library.key = key ∧ c.findsPlace = true
  · rw [if_pos latest, List.filter_append]
    simp [latest]
  · rw [if_neg latest, List.filter_append]
    have passed : (c.library.key == key && c.findsPlace) = false := by
      simpa using latest
    simp [passed]

/-! ## The recorded places -/

/-- The place recorded for a library is that of the last call that found one.  Without such a
call it is what was recorded at the start. -/
theorem find?_runAll (p : Profile) (calls : List Call) (key : String) :
    (runAll p calls).relocations.find? key =
      (lastBase? key calls).or (p.relocations.find? key) := by
  induction calls using List.reverseRecOn with
  | nil => rfl
  | append_singleton calls c inductionHypothesis =>
      rw [runAll_snoc, lastBase?_snoc, Call.outcome]
      cases found : c.findsPlace with
      | false =>
          rw [relocate_of_absent _ found, inductionHypothesis]
          simp
      | true =>
          rw [relocations_relocate _ found]
          by_cases own : c.library.key = key
          · rw [own, OrderedMap.find?_insert_self]
            simp
          · rw [OrderedMap.find?_insert_of_ne _ own, inductionHypothesis]
            simp [own]

/-! ## The ledger -/

/-- An entry of a list of search paths, with the number of the call that added it.  An entry
from before the run has none. -/
structure Ledger.Entry where
  path : Path
  call : Option Nat
  deriving DecidableEq

/-- A profile with the entries of its lists, after so many calls. -/
structure Ledger where
  profile : Profile
  entries : SearchList → List Ledger.Entry
  calls : Nat

namespace Ledger

/-- At the start no entry comes from a call. -/
def start (p : Profile) : Ledger where
  profile := p
  entries := fun list => (p.paths list).map (fun path => ⟨path, none⟩)
  calls := 0

/-- A call keeps entries with their numbers and gives its own number to those it adds. -/
def next (l : Ledger) (c : Call) : Ledger where
  profile := (c.outcome l.profile).state
  entries := fun list =>
    if c.findsPlace then
      (l.entries list).filter (fun e =>
          c.library.keeps list (l.profile.relocations.find? c.library.key) e.path) ++
        (c.library.added c.base list).map (fun path => ⟨path, some l.calls⟩)
    else l.entries list
  calls := l.calls + 1

end Ledger

/-- The ledger of a run. -/
def ledger (p : Profile) (calls : List Call) : Ledger :=
  calls.foldl Ledger.next (Ledger.start p)

theorem ledger_snoc (p : Profile) (calls : List Call) (c : Call) :
    ledger p (calls ++ [c]) = (ledger p calls).next c := by
  simp only [ledger, List.foldl_append, List.foldl_cons, List.foldl_nil]

@[simp]
theorem profile_ledger (p : Profile) (calls : List Call) :
    (ledger p calls).profile = runAll p calls := by
  induction calls using List.reverseRecOn with
  | nil => rfl
  | append_singleton calls c inductionHypothesis =>
      rw [ledger_snoc, runAll_snoc, ← inductionHypothesis]
      rfl

@[simp]
theorem calls_ledger (p : Profile) (calls : List Call) :
    (ledger p calls).calls = calls.length := by
  induction calls using List.reverseRecOn with
  | nil => rfl
  | append_singleton calls c inductionHypothesis =>
      rw [ledger_snoc, List.length_append, ← inductionHypothesis]
      rfl

/-- What one more call does to the entries of a ledger. -/
theorem entries_ledger_snoc (p : Profile) (calls : List Call) (c : Call) (list : SearchList) :
    (ledger p (calls ++ [c])).entries list =
      if c.findsPlace then
        ((ledger p calls).entries list).filter (fun e =>
            c.library.keeps list ((runAll p calls).relocations.find? c.library.key) e.path) ++
          (c.library.added c.base list).map (fun path => ⟨path, some calls.length⟩)
      else (ledger p calls).entries list := by
  rw [ledger_snoc, ← profile_ledger, ← calls_ledger p calls]
  rfl

/-- The ledger without its numbers is the profile. -/
theorem map_path_entries (p : Profile) (calls : List Call) (list : SearchList) :
    ((ledger p calls).entries list).map Ledger.Entry.path = (runAll p calls).paths list := by
  induction calls using List.reverseRecOn with
  | nil =>
      have start : (ledger p []).entries list =
          (p.paths list).map (fun path => ⟨path, none⟩) := rfl
      rw [start, List.map_map]
      exact List.map_id _
  | append_singleton calls c inductionHypothesis =>
      rw [entries_ledger_snoc, runAll_snoc, Call.outcome]
      cases found : c.findsPlace with
      | false =>
          rw [relocate_of_absent _ found]
          exact inductionHypothesis
      | true =>
          rw [paths_relocate _ list found, ← inductionHypothesis, if_pos rfl, List.map_append,
            List.filter_map, List.map_map]
          congr 1
          exact List.map_id _

/-- An entry that a call added carries a number of the run. -/
theorem lt_of_mem_entries {p : Profile} {calls : List Call} {list : SearchList} {path : Path}
    {number : Nat} (listed : ⟨path, some number⟩ ∈ (ledger p calls).entries list) :
    number < calls.length := by
  induction calls using List.reverseRecOn with
  | nil =>
      rcases List.mem_map.mp listed with ⟨_, _, impossible⟩
      cases impossible
  | append_singleton calls c inductionHypothesis =>
      rw [List.length_append, List.length_singleton]
      rw [entries_ledger_snoc] at listed
      cases found : c.findsPlace with
      | false =>
          rw [found, if_neg Bool.false_ne_true] at listed
          exact Nat.lt_succ_of_lt (inductionHypothesis listed)
      | true =>
          rw [found, if_pos rfl, List.mem_append] at listed
          rcases listed with kept | new
          · exact Nat.lt_succ_of_lt (inductionHypothesis (List.mem_filter.mp kept).1)
          · rcases List.mem_map.mp new with ⟨_, _, same⟩
            cases same
            exact Nat.lt_succ_self _

end Relocatable
end HostLink
