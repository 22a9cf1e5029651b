import HostLink.Proofs.Relocation.Run

namespace HostLink
namespace Relocatable

/-!
# A relocation takes the place of the earlier ones

A library that is found under a neutral name leaves search paths that do not mention it, so
its next relocation can only find them by the place that was recorded.  That this is enough is
an invariant of runs: whatever a call has added and is still listed lies below the place that
is recorded for the library of that call.  It survives relocations of other libraries, since
these leave the record alone, and failing calls, since they record their place before they
add anything.
-/

theorem keeps_headers (l : Relocatable) (previous : Option Path) :
    l.keeps .headers previous = fun path =>
      !Text.mentions l.mention path.text && !previous.any (fun place => place.isUnder path) := by
  funext path
  unfold keeps
  rw [dropsMentions_headers, Bool.true_and]

theorem keeps_libraries {l : Relocatable} (library : l ≠ .xsd) (previous : Option Path) :
    l.keeps .libraries previous = fun path =>
      !Text.mentions l.mention path.text && !previous.any (fun place => place.isUnder path) := by
  funext path
  cases l with
  | xsd => exact absurd rfl library
  | boost version => rfl
  | hdf5 => rfl
  | xerces => rfl
  | parmetis => rfl

theorem keeps_xsd_libraries (previous : Option Path) :
    Relocatable.xsd.keeps .libraries previous = fun path =>
      !previous.any (fun place => place.isUnder path) := by
  funext path
  rfl

/-- What is kept does not lie below the place recorded before. -/
theorem isUnder_of_keeps {l : Relocatable} {list : SearchList} {place path : Path}
    (kept : l.keeps list (some place) path = true) : place.isUnder path = false := by
  unfold keeps at kept
  simpa using (Bool.and_eq_true_iff.mp kept).2

/-! ## The invariant -/

/-- Everything that is listed and that a call has added lies below the place of the last call
for the same library that found its place. -/
def Placed (p : Profile) (calls : List Call) : Prop :=
  ∀ (list : SearchList) (path : Path) (number : Nat) (d : Call),
    ⟨path, some number⟩ ∈ (ledger p calls).entries list → calls[number]? = some d →
      ∃ place, lastBase? d.library.key calls = some place ∧ place.isUnder path = true

/-- A call keeps nothing that an earlier call for its library has added. -/
theorem key_ne_of_keeps {p : Profile} {calls : List Call} (placed : Placed p calls)
    {l : Relocatable} {list : SearchList} {path : Path} {number : Nat} {d : Call}
    (listed : ⟨path, some number⟩ ∈ (ledger p calls).entries list)
    (numbered : calls[number]? = some d)
    (kept : l.keeps list ((runAll p calls).relocations.find? l.key) path = true) :
    d.library.key ≠ l.key := by
  intro same
  rcases placed list path number d listed numbered with ⟨place, last, under⟩
  rw [find?_runAll, ← same, last, Option.some_or] at kept
  rw [isUnder_of_keeps kept] at under
  cases under

theorem placed_snoc {p : Profile} {calls : List Call} (placed : Placed p calls) (c : Call) :
    Placed p (calls ++ [c]) := by
  intro list path number d listed numbered
  rw [entries_ledger_snoc] at listed
  rw [lastBase?_snoc]
  cases found : c.findsPlace with
  | false =>
      rw [found, if_neg Bool.false_ne_true] at listed
      rw [List.getElem?_append_left (lt_of_mem_entries listed)] at numbered
      rw [if_neg (fun latest => Bool.false_ne_true latest.2)]
      exact placed list path number d listed numbered
  | true =>
      rw [found, if_pos rfl, List.mem_append] at listed
      rcases listed with kept | new
      · rcases List.mem_filter.mp kept with ⟨listed, kept⟩
        rw [List.getElem?_append_left (lt_of_mem_entries listed)] at numbered
        have other := key_ne_of_keeps placed listed numbered kept
        rw [if_neg (fun latest => other latest.1.symm)]
        exact placed list path number d listed numbered
      · rcases List.mem_map.mp new with ⟨_, directory, same⟩
        cases same
        rw [List.getElem?_concat_length] at numbered
        cases numbered
        rw [if_pos ⟨rfl, rfl⟩]
        exact ⟨c.base, rfl, isUnder_of_mem_added directory⟩

/-- The invariant holds after every run. -/
theorem placed_run (p : Profile) (calls : List Call) : Placed p calls := by
  induction calls using List.reverseRecOn with
  | nil =>
      intro list path number d _ numbered
      cases numbered
  | append_singleton calls c inductionHypothesis => exact placed_snoc inductionHypothesis c

/-! ## The lists after a success -/

theorem paths_of_relocation {p : Profile} (fresh : p.relocations = OrderedMap.empty)
    (earlier : List Call) {c : Call} {q : Profile}
    (succeeds : (c.library.relocate c.tree c.base).Succeeds (runAll p earlier) () q)
    (list : SearchList) :
    q.paths list =
      ((runAll p earlier).paths list).filter
          (c.library.keeps list (lastBase? c.library.key earlier)) ++
        c.library.added c.base list := by
  have present := present_of_succeeds succeeds
  have recorded : (runAll p earlier).relocations.find? c.library.key =
      lastBase? c.library.key earlier := by
    rw [find?_runAll, fresh, OrderedMap.find?_empty, Option.or_none]
  rw [← succeeds.state, paths_relocate _ list present, recorded]

/-- No entry of an earlier call for the library is left. -/
theorem key_ne_of_relocation {p : Profile} {earlier : List Call} {c : Call} {q : Profile}
    (succeeds : (c.library.relocate c.tree c.base).Succeeds (runAll p earlier) () q)
    {list : SearchList} {path : Path} {number : Nat} {d : Call}
    (listed : ⟨path, some number⟩ ∈ (ledger p (earlier ++ [c])).entries list)
    (numbered : earlier[number]? = some d) : d.library.key ≠ c.library.key := by
  have present := present_of_succeeds succeeds
  rw [entries_ledger_snoc, Call.findsPlace, present, if_pos rfl, List.mem_append] at listed
  rcases listed with kept | new
  · rcases List.mem_filter.mp kept with ⟨listed, kept⟩
    exact key_ne_of_keeps (placed_run p earlier) listed numbered kept
  · rcases List.mem_map.mp new with ⟨_, _, same⟩
    cases same
    rw [List.getElem?_eq_none (Nat.le_refl _)] at numbered
    cases numbered

/-- A relocation that succeeds leaves what neither mentions its library nor lies below the
place of the last call for it, and puts one directory of its own behind that.  Nothing is left
that an earlier call for the library has added. -/
theorem lists_of_relocation {p : Profile} (fresh : p.relocations = OrderedMap.empty)
    (earlier : List Call) {c : Call} {q : Profile}
    (succeeds : (c.library.relocate c.tree c.base).Succeeds (runAll p earlier) () q) :
    (∃ entry, c.base.isUnder entry = true ∧
      q.includePaths = (runAll p earlier).includePaths.filter (fun path =>
        !Text.mentions c.library.mention path.text &&
          !(lastBase? c.library.key earlier).any (fun place => place.isUnder path)) ++ [entry]) ∧
    (c.library ≠ .xsd → ∃ entry, c.base.isUnder entry = true ∧
      q.libPaths = (runAll p earlier).libPaths.filter (fun path =>
        !Text.mentions c.library.mention path.text &&
          !(lastBase? c.library.key earlier).any (fun place => place.isUnder path)) ++ [entry]) ∧
    (c.library = .xsd →
      q.libPaths = (runAll p earlier).libPaths.filter (fun path =>
        !(lastBase? c.library.key earlier).any (fun place => place.isUnder path))) ∧
    ∀ list, ((ledger p (earlier ++ [c])).entries list).map Ledger.Entry.path = q.paths list ∧
      ∀ path number d, ⟨path, some number⟩ ∈ (ledger p (earlier ++ [c])).entries list →
        earlier[number]? = some d → d.library.key ≠ c.library.key := by
  refine ⟨?_, ?_, ?_, ?_⟩
  · rcases added_of_succeeds succeeds .headers (Or.inr rfl) with ⟨entry, alone⟩
    have under : c.base.isUnder entry = true :=
      isUnder_of_mem_added (alone ▸ List.mem_singleton_self entry)
    have whole := paths_of_relocation fresh earlier succeeds .headers
    rw [alone, keeps_headers] at whole
    exact ⟨entry, under, whole⟩
  · intro library
    rcases added_of_succeeds succeeds .libraries (Or.inl library) with ⟨entry, alone⟩
    have under : c.base.isUnder entry = true :=
      isUnder_of_mem_added (alone ▸ List.mem_singleton_self entry)
    have whole := paths_of_relocation fresh earlier succeeds .libraries
    rw [alone, keeps_libraries library] at whole
    exact ⟨entry, under, whole⟩
  · intro schemas
    have whole := paths_of_relocation fresh earlier succeeds .libraries
    rw [schemas, keeps_xsd_libraries, added, List.append_nil] at whole
    rw [schemas]
    exact whole
  · intro list
    have left : (c.outcome (runAll p earlier)).state = q := succeeds.state
    refine ⟨?_, fun path number d listed numbered => ?_⟩
    · rw [map_path_entries, runAll_snoc, left]
    · exact key_ne_of_relocation succeeds listed numbered

/-! Boost under two neutral names, with Xerces in between in a directory that is named after Boost.
The first place holds no library files, so the relocation to it fails after it has added
directories. -/

def boostTree : FileTree :=
  ((FileTree.empty.makeDirectories? [] ["opt", "a"]).bind (fun t =>
    (t.makeDirectories? [] ["opt", "h"]).bind (fun t =>
      (t.makeDirectories? [] ["opt", "boost-tools"]).bind (fun t =>
        t.putFile? ["opt", "b", "lib", "libboost_serialization-mt.so"] [] false)))).getD
    FileTree.empty

def boostCalls : List Call :=
  [⟨boostTree, .boost "1.40", ⟨"/opt/a"⟩⟩, ⟨boostTree, .hdf5, ⟨"/opt/h"⟩⟩,
    ⟨boostTree, .xerces, ⟨"/opt/boost-tools"⟩⟩]

/-- A machine with the headers of HDF5 in the usual place. -/
def usualHdf5 : Profile :=
  { Profile.plain with includePaths := [⟨"/usr/include/hdf5/serial"⟩, ⟨"/usr/include/vtk"⟩] }

/-- The second relocation of Boost leaves HDF5 and one directory of its own.  The first one of HDF5
leaves what does not name HDF5, and one directory of its own. -/
theorem includes_of_boost_relocation :
    (∃ q entry, (relocate boostTree (.boost "1.40") ⟨"/opt/b"⟩).Succeeds
        (runAll Profile.plain boostCalls) () q ∧
      q.includePaths = [⟨"/opt/h/include"⟩, entry] ∧
      (⟨"/opt/b"⟩ : Path).isUnder entry = true) ∧
    ∃ q entry, (relocate boostTree .hdf5 ⟨"/opt/h"⟩).Succeeds usualHdf5 () q ∧
      q.includePaths = [⟨"/usr/include/vtk"⟩, entry] ∧
      (⟨"/opt/h"⟩ : Path).isUnder entry = true := by
  constructor
  · have succeeds := Action.Succeeds.of_toBool
      (x := relocate boostTree (.boost "1.40") ⟨"/opt/b"⟩)
      (s := runAll Profile.plain boostCalls) (by decide +kernel)
    have lists := lists_of_relocation rfl boostCalls
      (c := ⟨boostTree, .boost "1.40", ⟨"/opt/b"⟩⟩) succeeds
    rcases lists with ⟨⟨entry, under, headers⟩, _⟩
    have kept : (runAll Profile.plain boostCalls).includePaths.filter (fun path =>
        !Text.mentions "boost" path.text &&
          !(lastBase? "boost" boostCalls).any (fun place => place.isUnder path)) =
        [⟨"/opt/h/include"⟩] := by decide +kernel
    refine ⟨_, entry, succeeds, ?_, under⟩
    exact headers.trans (congrArg (· ++ [entry]) kept)
  · have succeeds := Action.Succeeds.of_toBool (x := relocate boostTree .hdf5 ⟨"/opt/h"⟩)
      (s := usualHdf5) (by decide +kernel)
    have lists := @lists_of_relocation usualHdf5 rfl [] ⟨boostTree, .hdf5, ⟨"/opt/h"⟩⟩ _ succeeds
    rcases lists with ⟨⟨entry, under, headers⟩, _⟩
    have kept : usualHdf5.includePaths.filter (fun path =>
        !Text.mentions "hdf5" path.text &&
          !(lastBase? "hdf5" []).any (fun place => place.isUnder path)) =
        [⟨"/usr/include/vtk"⟩] := by decide +kernel
    rw [mention_hdf5] at headers
    refine ⟨_, entry, succeeds, ?_, under⟩
    exact headers.trans (congrArg (· ++ [entry]) kept)

end Relocatable
end HostLink
