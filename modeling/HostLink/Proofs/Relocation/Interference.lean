import HostLink.Proofs.Relocation.Run

namespace HostLink
namespace Relocatable

/-!
# Relocations of different libraries

A relocation recognises the paths of its library by their text and by the place recorded
before, and neither test knows which library a path belongs to.  So the directories of one
library can fall to the relocation of another: when the name of the other one occurs anywhere
in their text, or when they lie below an earlier place of the other one.

These are the only ways.  A directory that a call has added is listed until a later call
drops it, and the two tests decide about every call on its own.  The ledger of the run tells the
entries apart, and without its numbers it is the list of the profile.
-/

theorem keeps_eq_true_iff {l : Relocatable} {list : SearchList} {previous : Option Path}
    {path : Path} :
    l.keeps list previous path = true ↔
      (l.dropsMentions list = true → Text.mentions l.mention path.text = false) ∧
      ∀ place, previous = some place → place.isUnder path = false := by
  unfold keeps
  cases l.dropsMentions list <;> cases previous <;> simp

/-- A call that comes after some others leaves a path in a list. -/
def Spares (p : Profile) (earlier : List Call) (d : Call) (list : SearchList) (path : Path) :
    Prop :=
  d.findsPlace = true →
    (d.library.dropsMentions list = true →
      Text.mentions d.library.mention path.text = false) ∧
    ∀ place, (lastBase? d.library.key earlier).or (p.relocations.find? d.library.key) =
      some place → place.isUnder path = false

/-- Sparing is what the call itself does with the place that is on record for its library. -/
theorem spares_iff {p : Profile} {earlier : List Call} {d : Call} {list : SearchList}
    {path : Path} :
    Spares p earlier d list path ↔ (d.findsPlace = true →
      d.library.keeps list ((runAll p earlier).relocations.find? d.library.key) path = true) := by
  rw [find?_runAll, keeps_eq_true_iff]
  exact Iff.rfl

/-- What a call does not spare is only listed behind it if the call adds it again. -/
theorem mem_added_of_not_spares {p : Profile} {earlier : List Call} {d : Call} {list : SearchList}
    {path : Path} (hit : ¬ Spares p earlier d list path)
    (listed : path ∈ (runAll p (earlier ++ [d])).paths list) :
    path ∈ d.library.added d.base list := by
  rw [spares_iff, Classical.not_imp] at hit
  rcases hit with ⟨found, dropped⟩
  rw [runAll_snoc, Call.outcome, paths_relocate _ list found, List.mem_append] at listed
  rcases listed with kept | new
  · exact absurd (List.mem_filter.mp kept).2 dropped
  · exact new

/-- One more call: an entry of an earlier one stays exactly if it is spared. -/
theorem mem_entries_snoc_iff {p : Profile} {calls : List Call} {d : Call} {list : SearchList}
    {path : Path} {number : Nat} (old : number < calls.length) :
    ⟨path, some number⟩ ∈ (ledger p (calls ++ [d])).entries list ↔
      ⟨path, some number⟩ ∈ (ledger p calls).entries list ∧ Spares p calls d list path := by
  rw [entries_ledger_snoc, spares_iff]
  cases found : d.findsPlace with
  | false => simp
  | true =>
      rw [if_pos rfl, List.mem_append, List.mem_filter]
      constructor
      · rintro (⟨listed, kept⟩ | new)
        · exact ⟨listed, fun _ => kept⟩
        · rcases List.mem_map.mp new with ⟨_, _, same⟩
          cases same
          exact absurd old (Nat.lt_irrefl _)
      · rintro ⟨listed, kept⟩
        exact Or.inl ⟨listed, kept rfl⟩

/-- A run of further calls: an entry stays exactly if each of them spares it, where each finds
the places that the calls before it have left on record. -/
theorem mem_entries_append_iff {p : Profile} {list : SearchList} {path : Path} {number : Nat}
    (calls after : List Call) (old : number < calls.length) :
    ⟨path, some number⟩ ∈ (ledger p (calls ++ after)).entries list ↔
      ⟨path, some number⟩ ∈ (ledger p calls).entries list ∧
      ∀ middle d rest, after = middle ++ d :: rest → Spares p (calls ++ middle) d list path := by
  induction after generalizing calls with
  | nil => simp
  | cons d after inductionHypothesis =>
      have older : number < (calls ++ [d]).length := by
        rw [List.length_append]
        exact Nat.lt_add_right _ old
      rw [← List.singleton_append, ← List.append_assoc, inductionHypothesis _ older,
        mem_entries_snoc_iff old, and_assoc]
      refine and_congr_right (fun _ => ?_)
      constructor
      · rintro ⟨first, others⟩ middle e rest split
        cases middle with
        | nil =>
            cases split
            rw [List.append_nil]
            exact first
        | cons m middle =>
            rcases List.cons.inj split with ⟨rfl, tail⟩
            rw [← List.singleton_append, ← List.append_assoc]
            exact others middle e rest tail
      · intro all
        refine ⟨?_, ?_⟩
        · have first := all [] d after rfl
          rwa [List.append_nil] at first
        · intro middle e rest split
          have later := all (d :: middle) e rest (by rw [split]; rfl)
          rwa [← List.singleton_append, ← List.append_assoc] at later

/-! ## What a run leaves of a relocation

HDF5 below a directory that is named after another library shows what can happen. -/

/-- Every call succeeds, each on the profile that the ones before it leave. -/
def allSucceed (p : Profile) : List Call → Bool
  | [] => true
  | c :: rest => (c.outcome p).result.toBool && allSucceed (c.outcome p).state rest

def stackTree : FileTree :=
  ((FileTree.empty.makeDirectories? [] ["xerces-stack", "hdf5"]).bind
    (·.makeDirectories? [] ["xc"])).getD FileTree.empty

def stackCalls : List Call :=
  [⟨stackTree, .hdf5, ⟨"/xerces-stack/hdf5"⟩⟩, ⟨stackTree, .xerces, ⟨"/xc"⟩⟩]

/-- Success of all calls is not enough for the directories of the last call for each library
to remain. -/
theorem not_forall_remains :
    ¬ ∀ (p : Profile) (calls : List Call), allSucceed p calls = true →
      ∀ before c after, calls = before ++ c :: after →
        (∀ d ∈ after, d.library.key ≠ c.library.key) →
        ∀ list, ∀ path ∈ c.library.added c.base list, path ∈ (runAll p calls).paths list := by
  intro remains
  have listed := remains Profile.plain stackCalls (by decide) [] _ _ rfl (by decide) .headers
    ⟨"/xerces-stack/hdf5/include"⟩ (by decide)
  have dropped :
      ⟨"/xerces-stack/hdf5/include"⟩ ∉ (runAll Profile.plain stackCalls).paths .headers := by
    decide
  exact dropped listed

/-- The directory that a successful relocation puts at the end of a list is still there after any
further calls exactly if each of them spares it, and a call that does not spare it leaves no copy
of it but one that it adds itself.  The ledger, by which the entries are told apart, lists the
search paths of the profile. -/
theorem remains_iff_spared {p : Profile} (before : List Call) {c : Call} {q : Profile}
    (succeeds : (c.library.relocate c.tree c.base).Succeeds (runAll p before) () q)
    (list : SearchList) (own : c.library ≠ .xsd ∨ list = .headers) (after : List Call) :
    ∃ path, c.library.added c.base list = [path] ∧ c.base.isUnder path = true ∧
      (q.paths list).getLast? = some path ∧
      ((ledger p (before ++ c :: after)).entries list).map Ledger.Entry.path =
        (runAll p (before ++ c :: after)).paths list ∧
      (⟨path, some before.length⟩ ∈ (ledger p (before ++ c :: after)).entries list ↔
        ∀ middle d rest, after = middle ++ d :: rest →
          Spares p (before ++ c :: middle) d list path) ∧
      ∀ middle d rest, after = middle ++ d :: rest →
        ¬ Spares p (before ++ c :: middle) d list path →
        path ∈ (runAll p (before ++ c :: middle ++ [d])).paths list →
          path ∈ d.library.added d.base list := by
  rcases added_of_succeeds succeeds list own with ⟨path, alone⟩
  have present := present_of_succeeds succeeds
  have added : path ∈ c.library.added c.base list := alone ▸ List.mem_singleton_self path
  have listed : ⟨path, some before.length⟩ ∈ (ledger p (before ++ [c])).entries list := by
    rw [entries_ledger_snoc, Call.findsPlace, present, if_pos rfl, List.mem_append]
    exact Or.inr (List.mem_map.mpr ⟨path, added, rfl⟩)
  have old : before.length < (before ++ [c]).length := by
    rw [List.length_append]
    exact Nat.lt_succ_self _
  refine ⟨path, alone, isUnder_of_mem_added added, ?_, map_path_entries _ _ _, ?_, ?_⟩
  · rw [← succeeds.state, paths_relocate _ list present, alone]
    exact List.getLast?_concat
  · have whole := @mem_entries_append_iff p list path before.length (before ++ [c]) after old
    simp only [List.append_assoc, List.singleton_append, listed, true_and] at whole
    exact whole
  · intro middle d rest _ hit
    exact mem_added_of_not_spares hit

/-- If Xerces is relocated first, the headers of HDF5 remain, also after a relocation of
ParMETIS.  If it is relocated last, they are gone. -/
theorem remains_of_xerces_first :
    (⟨"/xerces-stack/hdf5/include"⟩ : Path) ∈ (runAll Profile.plain
      [⟨stackTree, .xerces, ⟨"/xc"⟩⟩, ⟨stackTree, .hdf5, ⟨"/xerces-stack/hdf5"⟩⟩,
        ⟨stackTree, .parmetis, ⟨"/xc"⟩⟩]).paths .headers ∧
    (⟨"/xerces-stack/hdf5/include"⟩ : Path) ∉ (runAll Profile.plain stackCalls).paths .headers := by
  have headers : ∀ path, added .hdf5 ⟨"/xerces-stack/hdf5"⟩ .headers = [path] →
      path = ⟨"/xerces-stack/hdf5/include"⟩ := by
    intro path alone
    have known : [path] = [⟨"/xerces-stack/hdf5/include"⟩] := alone.symm.trans (by decide)
    exact List.singleton_inj.mp known
  constructor
  · have succeeds := Action.Succeeds.of_toBool
      (x := relocate stackTree .hdf5 ⟨"/xerces-stack/hdf5"⟩)
      (s := runAll Profile.plain [⟨stackTree, .xerces, ⟨"/xc"⟩⟩]) (by decide)
    have remains := remains_iff_spared [⟨stackTree, .xerces, ⟨"/xc"⟩⟩]
      (c := ⟨stackTree, .hdf5, ⟨"/xerces-stack/hdf5"⟩⟩) succeeds .headers (Or.inr rfl)
      [⟨stackTree, .parmetis, ⟨"/xc"⟩⟩]
    rcases remains with ⟨path, alone, _, _, paths, spared, _⟩
    cases headers path alone
    refine paths ▸ List.mem_map_of_mem (f := Ledger.Entry.path) (spared.mpr ?_)
    intro middle d rest split _
    cases middle with
    | nil =>
        cases split
        refine ⟨fun _ => ?_, fun place recorded => ?_⟩
        · decide
        · cases recorded
    | cons m middle =>
        have tail := (List.cons.inj split).2
        exact absurd tail.symm (List.append_ne_nil_of_right_ne_nil _ (List.cons_ne_nil _ _))
  · have succeeds := Action.Succeeds.of_toBool
      (x := relocate stackTree .hdf5 ⟨"/xerces-stack/hdf5"⟩) (s := Profile.plain) (by decide)
    have remains := @remains_iff_spared Profile.plain []
      ⟨stackTree, .hdf5, ⟨"/xerces-stack/hdf5"⟩⟩ _ succeeds .headers (Or.inr rfl)
      [⟨stackTree, .xerces, ⟨"/xc"⟩⟩]
    rcases remains with ⟨path, alone, _, _, _, _, gone⟩
    cases headers path alone
    have hit : ¬ Spares Profile.plain [⟨stackTree, .hdf5, ⟨"/xerces-stack/hdf5"⟩⟩]
        ⟨stackTree, .xerces, ⟨"/xc"⟩⟩ .headers ⟨"/xerces-stack/hdf5/include"⟩ := by
      intro spares
      have unmentioned := (spares (by decide)).1 rfl
      rw [mention_xerces] at unmentioned
      revert unmentioned
      decide
    intro listed
    have again := gone [] _ [] rfl hit listed
    revert again
    decide

end Relocatable
end HostLink
