import HostLink.Proofs.Relocation.BoostLibrary
import HostLink.Proofs.Relocation.Frame
import HostLink.Proofs.Relocation.Interference

namespace HostLink
namespace Relocatable

/-!
# The libraries that a run names

HDF5, Xerces and ParMETIS bring one or two names for the linker.  They are added together, and
only if the first of them, the marker, is not there yet.  So a library that is relocated again
adds nothing, and a machine that lists the marker from the start gets no further name: HDF5
leaves `hdf5` without `z`, if only `hdf5` was there.  Boost drops its names and adds one.

Apart from the names of Boost, the list after a run is therefore the one before it with the
names of the relocated libraries behind, each library once, as far as its marker was not there
from the start.
-/

/-- The names that a relocation adds, the marker first.  The name of Boost depends on the files
in its place, and XSD has none. -/
def linkNames : Relocatable → List String
  | .boost _ => []
  | .hdf5 => ["hdf5", "z"]
  | .xerces => ["xerces-c"]
  | .parmetis => ["parmetis", "metis"]
  | .xsd => []

/-- Names that are added to others: all of them, or none if the marker is there. -/
def unlisted (listed names : List String) : List String :=
  if names.head?.any (· ∈ listed) then [] else names

/-- The names that some relocations add to a list, each library once. -/
def newNames (listed : List String) (libraries : List Relocatable) : List String :=
  (libraries.map linkNames).eraseDups.flatMap (unlisted listed)

/-! ## One relocation -/

/-- The names before and after a relocation. -/
inductive Relinked (t : FileTree) (base : Path) (before : List String) :
    Relocatable → List String → Prop where
  | boost {version suffix : String}
      (shows : Boost.Shows (Glob.seen t (base.child "lib")) suffix) :
      Relinked t base before (.boost version)
        (namesWithoutStart "boost_" before ++ [Boost.library ++ suffix])
  | other {l : Relocatable} (own : l.key ≠ "boost") :
      Relinked t base before l (before ++ unlisted before l.linkNames)

theorem libraries_addLibrariesOnce (p : Profile) (marker : String) (others : List String) :
    (p.addLibrariesOnce marker (marker :: others)).libraries =
      p.libraries ++ unlisted p.libraries (marker :: others) := by
  unfold Profile.addLibrariesOnce unlisted
  by_cases known : marker ∈ p.libraries
  · simp [known]
  · simp [known, Profile.addLibraries]

/-- The libraries other than Boost add their names, and touch no other name. -/
theorem libraries_relocate {t : FileTree} {l : Relocatable} {base : Path} (p : Profile)
    (present : t.present base = true) (own : l.key ≠ "boost") :
    (l.relocate t base p).state.libraries = p.libraries ++ unlisted p.libraries l.linkNames := by
  have accepted : ∀ component, t.require base component = .ok () :=
    fun _ => FileTree.require_eq_ok_iff.mpr present
  cases l with
  | boost version => exact absurd rfl own
  | hdf5 =>
      simp only [relocate, accepted]
      rw [← libraries_replaceDirectories .hdf5 base p]
      exact libraries_addLibrariesOnce _ "hdf5" ["z"]
  | xerces =>
      simp only [relocate, accepted]
      rw [← libraries_replaceDirectories .xerces base p]
      exact libraries_addLibrariesOnce _ "xerces-c" []
  | parmetis =>
      simp only [relocate, accepted]
      rw [← libraries_replaceParMetis base p]
      exact libraries_addLibrariesOnce _ "parmetis" ["metis"]
  | xsd =>
      simp only [relocate, accepted]
      exact (libraries_replaceXsd base p).trans (List.append_nil _).symm

theorem relinked_of_succeeds {t : FileTree} {l : Relocatable} {base : Path} {p p' : Profile}
    (succeeds : (l.relocate t base).Succeeds p () p') :
    Relinked t base p.libraries l p'.libraries := by
  have present := present_of_succeeds succeeds
  cases l with
  | boost version =>
      rcases shows_of_succeeds succeeds with ⟨suffix, shows, libraries⟩
      rw [libraries]
      exact .boost shows
  | hdf5 | xerces | parmetis | xsd =>
      rw [← succeeds.state, libraries_relocate p present (by decide)]
      exact .other (by decide)

/-- With its marker there, a library adds nothing. -/
theorem libraries_of_listed {t : FileTree} {l : Relocatable} {base : Path} {p p' : Profile}
    (named : l.linkNames ≠ []) (listed : ∀ marker, l.linkNames.head? = some marker →
      marker ∈ p.libraries) (succeeds : (l.relocate t base).Succeeds p () p') :
    p'.libraries = p.libraries := by
  rcases List.exists_cons_of_ne_nil named with ⟨marker, names, own⟩
  have first : l.linkNames.head? = some marker := by rw [own]; rfl
  have other : l.key ≠ "boost" := by
    cases l with
    | boost version => exact absurd rfl named
    | hdf5 | xerces | parmetis | xsd => decide
  have known : unlisted p.libraries l.linkNames = [] := by
    unfold unlisted
    rw [first]
    simp [listed marker first]
  rw [← succeeds.state, libraries_relocate p (present_of_succeeds succeeds) other, known,
    List.append_nil]

/-! ## The names of a library -/

/-- The names that a relocation can add. -/
def nameGroups : List (List String) :=
  [[], ["hdf5", "z"], ["xerces-c"], ["parmetis", "metis"]]

theorem linkNames_mem (l : Relocatable) : l.linkNames ∈ nameGroups := by
  cases l <;> simp [linkNames, nameGroups]

theorem isSpared_of_mem_linkNames {l : Relocatable} {name : String} (own : name ∈ l.linkNames) :
    isSpared name = true := by
  have all : ∀ names ∈ nameGroups, ∀ other ∈ names, isSpared other = true := by decide
  exact all _ l.linkNames_mem name own

/-- No two libraries have a name in common. -/
theorem linkNames_eq_of_mem {l l' : Relocatable} {name : String} (own : name ∈ l.linkNames)
    (other : name ∈ l'.linkNames) : l.linkNames = l'.linkNames := by
  have apart : ∀ names ∈ nameGroups, ∀ names' ∈ nameGroups, ∀ first ∈ names, first ∈ names' →
      names = names' := by decide
  exact apart _ l.linkNames_mem _ l'.linkNames_mem name own other

theorem mem_unlisted_iff {listed names : List String} {name : String} :
    name ∈ unlisted listed names ↔
      name ∈ names ∧ ∀ marker, names.head? = some marker → marker ∉ listed := by
  unfold unlisted
  cases names with
  | nil => simp
  | cons marker others =>
      by_cases known : marker ∈ listed
      · simp [known]
      · simp [known]

theorem mem_newNames_iff {listed : List String} {libraries : List Relocatable} {name : String} :
    name ∈ newNames listed libraries ↔
      ∃ l ∈ libraries, name ∈ unlisted listed l.linkNames := by
  simp [newNames, List.mem_flatMap, List.mem_eraseDups]

/-- One more library adds its names unless they were added before. -/
theorem newNames_snoc (listed : List String) (libraries : List Relocatable) (l : Relocatable) :
    newNames listed (libraries ++ [l]) =
      newNames listed libraries ++
        if l.linkNames ∈ libraries.map linkNames then [] else unlisted listed l.linkNames := by
  unfold newNames
  rw [List.map_append, List.map_singleton, List.eraseDups_append, List.flatMap_append]
  congr 1
  generalize libraries.map linkNames = earlier
  by_cases known : l.linkNames ∈ earlier
  · simp [known, List.removeAll]
  · simp [known, List.removeAll, List.eraseDups_cons]

theorem namesWithoutStart_append (start : String) (names others : List String) :
    namesWithoutStart start (names ++ others) =
      namesWithoutStart start names ++ namesWithoutStart start others :=
  List.filter_append names others

theorem isSpared_of_mem_unlisted {l : Relocatable} {listed : List String} {name : String}
    (own : name ∈ unlisted listed l.linkNames) : isSpared name = true :=
  isSpared_of_mem_linkNames (mem_unlisted_iff.mp own).1

theorem namesWithoutStart_unlisted (listed : List String) (l : Relocatable) :
    namesWithoutStart "boost_" (unlisted listed l.linkNames) = unlisted listed l.linkNames :=
  List.filter_eq_self.mpr (fun _ => isSpared_of_mem_unlisted)

/-- Whether the names of a library stand in a list shows among the names that are not of
Boost. -/
theorem sublist_namesWithoutStart_iff (l : Relocatable) (names : List String) :
    l.linkNames.Sublist (namesWithoutStart "boost_" names) ↔ l.linkNames.Sublist names := by
  constructor
  · exact fun inside => inside.trans List.filter_sublist
  · intro inside
    have kept := inside.filter isSpared
    rwa [List.filter_eq_self.mpr (fun _ => isSpared_of_mem_linkNames)] at kept

/-- A relocation adds to the names that are not of Boost, and drops none of them. -/
theorem Relinked.spared {t : FileTree} {base : Path} {l : Relocatable}
    {before after : List String} (relinked : Relinked t base before l after) :
    namesWithoutStart "boost_" after =
      namesWithoutStart "boost_" before ++ unlisted before l.linkNames := by
  cases relinked with
  | @boost version suffix shows =>
      have dropped : namesWithoutStart "boost_" [Boost.library ++ suffix] = [] := by
        unfold namesWithoutStart
        rw [List.filter_singleton, startsWith_library]
        rfl
      have twice : namesWithoutStart "boost_" (namesWithoutStart "boost_" before) =
          namesWithoutStart "boost_" before := by
        unfold namesWithoutStart
        rw [List.filter_filter]
        simp only [Bool.and_self]
      rw [namesWithoutStart_append, twice, dropped]
      rfl
  | other own => rw [namesWithoutStart_append, namesWithoutStart_unlisted]

/-- A relocation of another library leaves the names of Boost. -/
theorem Relinked.boost_names {t : FileTree} {base : Path} {l : Relocatable}
    {before after : List String} (relinked : Relinked t base before l after)
    (own : l.key ≠ "boost") :
    after.filter (Text.startsWith "boost_") = before.filter (Text.startsWith "boost_") := by
  cases relinked with
  | boost shows => exact absurd rfl own
  | other _ =>
      have none : (unlisted before l.linkNames).filter (Text.startsWith "boost_") = [] := by
        rw [List.filter_eq_nil_iff]
        intro name listed starts
        have spared := isSpared_of_mem_unlisted listed
        unfold isSpared at spared
        rw [starts] at spared
        cases spared
      rw [List.filter_append, none, List.append_nil]

/-! ## Runs -/

section Runs

variable {p : Profile} {calls : List Call}

theorem allSucceed_append (p : Profile) (calls others : List Call) :
    allSucceed p (calls ++ others) =
      (allSucceed p calls && allSucceed (runAll p calls) others) := by
  induction calls generalizing p with
  | nil => rfl
  | cons c calls inductionHypothesis =>
      rw [List.cons_append, allSucceed, allSucceed, inductionHypothesis, Bool.and_assoc]
      rfl

theorem allSucceed_cons_iff {c : Call} :
    allSucceed p (c :: calls) = true ↔
      ∃ q, (c.library.relocate c.tree c.base).Succeeds p () q ∧ runAll p [c] = q ∧
        allSucceed q calls = true := by
  rw [allSucceed, Bool.and_eq_true]
  constructor
  · rintro ⟨one, others⟩
    exact ⟨_, Action.Succeeds.of_toBool one, rfl, others⟩
  · rintro ⟨q, succeeds, rfl, others⟩
    refine ⟨?_, others⟩
    have result := succeeds.result
    unfold Call.outcome
    rw [result]
    rfl

/-- Before the last call of a run that succeeds, the run succeeded up to there. -/
theorem allSucceed_snoc {c : Call} (succeed : allSucceed p (calls ++ [c]) = true) :
    allSucceed p calls = true ∧
      (c.library.relocate c.tree c.base).Succeeds (runAll p calls) () (runAll p (calls ++ [c])) := by
  rw [allSucceed_append, Bool.and_eq_true] at succeed
  rcases allSucceed_cons_iff.mp succeed.2 with ⟨q, succeeds, last, _⟩
  refine ⟨succeed.1, ?_⟩
  have left : (c.outcome (runAll p calls)).state = q := last
  rw [runAll_snoc, left]
  exact succeeds

/-- A marker is listed after a run if it was from the start, or if a call brought it. -/
theorem mem_iff_of_spared {libraries initial : List String} {run : List Relocatable}
    (spared : namesWithoutStart "boost_" libraries =
      namesWithoutStart "boost_" initial ++ newNames initial run)
    {l : Relocatable} {marker : String} (first : l.linkNames.head? = some marker) :
    marker ∈ libraries ↔ marker ∈ initial ∨ l.linkNames ∈ run.map linkNames := by
  have own : marker ∈ l.linkNames := List.mem_of_mem_head? first
  have kept := isSpared_of_mem_linkNames own
  have split : ∀ names : List String, marker ∈ namesWithoutStart "boost_" names ↔ marker ∈ names :=
    fun names => List.mem_filter.trans (and_iff_left kept)
  rw [← split libraries, spared, List.mem_append, split, mem_newNames_iff]
  constructor
  · rintro (old | ⟨l', member, new⟩)
    · exact Or.inl old
    · have same := linkNames_eq_of_mem own (mem_unlisted_iff.mp new).1
      rw [same]
      exact Or.inr (List.mem_map_of_mem member)
  · rintro (old | member)
    · exact Or.inl old
    · by_cases listed : marker ∈ initial
      · exact Or.inl listed
      · rcases List.mem_map.mp member with ⟨l', member', same⟩
        refine Or.inr ⟨l', member', mem_unlisted_iff.mpr ?_⟩
        rw [same, first]
        refine ⟨own, ?_⟩
        intro other known
        cases known
        exact listed

/-- Apart from the names of Boost, the names after a run are those before it, in their order,
and behind them those of the relocated libraries, each library once. -/
theorem spared_runAll (succeed : allSucceed p calls = true) :
    namesWithoutStart "boost_" (runAll p calls).libraries =
      namesWithoutStart "boost_" p.libraries ++
        newNames p.libraries (calls.map Call.library) := by
  induction calls using List.reverseRecOn with
  | nil => exact (List.append_nil _).symm
  | append_singleton calls c inductionHypothesis =>
      rcases allSucceed_snoc succeed with ⟨before, succeeds⟩
      have spared := inductionHypothesis before
      rw [(relinked_of_succeeds succeeds).spared, spared, List.map_append, List.map_singleton,
        newNames_snoc, List.append_assoc]
      congr 2
      unfold unlisted
      cases first : c.library.linkNames.head? with
      | none =>
          rw [List.head?_eq_none_iff.mp first]
          simp
      | some marker =>
          have member := mem_iff_of_spared spared first
          by_cases listed : marker ∈ p.libraries
          · simp [member, listed]
          · by_cases earlier : c.library.linkNames ∈ (calls.map Call.library).map linkNames
            · rw [if_pos earlier]
              simp only [Option.any_some, member, listed, earlier, or_true, decide_true, if_true]
            · rw [if_neg earlier]
              simp only [Option.any_some, member, listed, earlier, or_self]

/-- The names of a library stand in their order after a run in which it was relocated, unless
the marker was there from the start without the others behind it. -/
theorem linkNames_sublist_iff (succeed : allSucceed p calls = true) {l : Relocatable}
    {marker : String} (relocated : l ∈ calls.map Call.library)
    (first : l.linkNames.head? = some marker) :
    l.linkNames.Sublist (runAll p calls).libraries ↔
      marker ∉ p.libraries ∨ l.linkNames.Sublist p.libraries := by
  rw [← sublist_namesWithoutStart_iff l (runAll p calls).libraries, spared_runAll succeed,
    ← sublist_namesWithoutStart_iff l p.libraries]
  constructor
  · intro inside
    rw [or_iff_not_imp_left, not_not]
    intro listed
    rcases List.sublist_append_iff.mp inside with ⟨front, behind, whole, old, new⟩
    -- With the marker there, none of the names is new.
    have none : behind = [] := by
      rw [List.eq_nil_iff_forall_not_mem]
      intro name member
      have own : name ∈ l.linkNames := by
        rw [whole]
        exact List.mem_append_right _ member
      rcases mem_newNames_iff.mp (new.subset member) with ⟨l', _, added⟩
      rcases mem_unlisted_iff.mp added with ⟨other, absent⟩
      rw [← linkNames_eq_of_mem own other] at absent
      exact absent marker first listed
    rw [whole, none, List.append_nil]
    exact old
  · rintro (absent | inside)
    · have all : unlisted p.libraries l.linkNames = l.linkNames := by
        unfold unlisted
        rw [first]
        simp [absent]
      have member : l.linkNames ∈ ((calls.map Call.library).map linkNames).eraseDups :=
        List.mem_eraseDups.mpr (List.mem_map_of_mem relocated)
      have new : (unlisted p.libraries l.linkNames).Sublist
          (newNames p.libraries (calls.map Call.library)) := by
        unfold newNames
        rw [List.flatMap_def]
        exact List.sublist_flatten_of_mem (List.mem_map_of_mem member)
      rw [all] at new
      exact new.trans (List.sublist_append_right _ _)
    · exact inside.trans (List.sublist_append_left _ _)

/-- Relocations of other libraries leave the names of Boost. -/
theorem boost_names_runAll (succeed : allSucceed p calls = true)
    (others : ∀ c ∈ calls, c.library.key ≠ "boost") :
    (runAll p calls).libraries.filter (Text.startsWith "boost_") =
      p.libraries.filter (Text.startsWith "boost_") := by
  induction calls generalizing p with
  | nil => rfl
  | cons c calls inductionHypothesis =>
      rcases allSucceed_cons_iff.mp succeed with ⟨q, succeeds, rfl, rest⟩
      have later := inductionHypothesis rest
        (fun d listed => others d (List.mem_cons_of_mem _ listed))
      exact later.trans ((relinked_of_succeeds succeeds).boost_names
        (others c List.mem_cons_self))

/-- After relocations that succeed:
the names that are not of Boost are those from before, in their order and number, and behind them
those of the relocated libraries, each library once and only if its marker was not there before;
the marker of a relocated library is there, and its other names follow, unless the marker was
there before without them;
of Boost there is one name, that of the library file in its last place;
relocating HDF5, Xerces or ParMETIS again changes nothing. -/
theorem libraries_of_run (succeed : allSucceed p calls = true) :
    namesWithoutStart "boost_" (runAll p calls).libraries =
        namesWithoutStart "boost_" p.libraries ++
          newNames p.libraries (calls.map Call.library) ∧
      (∀ l ∈ calls.map Call.library, ∀ marker, l.linkNames.head? = some marker →
        marker ∈ (runAll p calls).libraries ∧
          (l.linkNames.Sublist (runAll p calls).libraries ↔
            marker ∉ p.libraries ∨ l.linkNames.Sublist p.libraries)) ∧
      (∀ before c after version, calls = before ++ c :: after → c.library = .boost version →
        (∀ d ∈ after, d.library.key ≠ "boost") →
          ∃ suffix, Boost.Shows (Glob.seen c.tree (c.base.child "lib")) suffix ∧
            (runAll p calls).libraries.filter (Text.startsWith "boost_") =
              [Boost.library ++ suffix]) ∧
      (∀ l ∈ calls.map Call.library, l.linkNames ≠ [] → ∀ t base q,
        (l.relocate t base).Succeeds (runAll p calls) () q →
          q.libraries = (runAll p calls).libraries) := by
  have spared := spared_runAll succeed
  have marked : ∀ l ∈ calls.map Call.library, ∀ marker, l.linkNames.head? = some marker →
      marker ∈ (runAll p calls).libraries :=
    fun l relocated marker first =>
      (mem_iff_of_spared spared first).mpr (Or.inr (List.mem_map_of_mem relocated))
  refine ⟨spared, ?_, ?_, ?_⟩
  · intro l relocated marker first
    exact ⟨marked l relocated marker first, linkNames_sublist_iff succeed relocated first⟩
  · rintro before c after version rfl kind others
    rw [allSucceed_append, Bool.and_eq_true] at succeed
    rcases allSucceed_cons_iff.mp succeed.2 with ⟨q, succeeds, left, rest⟩
    rw [kind] at succeeds
    rcases shows_of_succeeds succeeds with ⟨suffix, shows, libraries⟩
    have last : runAll p (before ++ c :: after) = runAll q after := by
      rw [← left]
      exact List.foldl_append
    refine ⟨suffix, shows, ?_⟩
    rw [last, boost_names_runAll rest others, libraries]
    exact filter_startsWith_append (startsWith_library suffix)
  · intro l relocated named t base q succeeds
    exact libraries_of_listed named (marked l relocated) succeeds

/-- A place for HDF5. -/
def scienceTree : FileTree :=
  (FileTree.empty.makeDirectories? [] ["h"]).getD FileTree.empty

/-- A machine that names HDF5 without what belongs to it. -/
def scienceProfile : Profile :=
  { Profile.plain with libraries := ["hdf5"] }

/-- Not all names of a relocated library are there afterwards. -/
theorem not_forall_names_listed :
    ¬ ∀ (p : Profile) (calls : List Call), allSucceed p calls = true →
      ∀ l ∈ calls.map Call.library, ∀ name ∈ l.linkNames, name ∈ (runAll p calls).libraries := by
  intro listed
  have compressed := listed scienceProfile [⟨scienceTree, .hdf5, ⟨"h"⟩⟩] (by decide) .hdf5
    (by decide) "z" (by decide)
  revert compressed
  decide

/-- HDF5 twice, and ParMETIS where its marker was there before. -/
theorem libraries_of_run_twice :
    allSucceed { Profile.plain with libraries := ["parmetis"] }
        [⟨scienceTree, .hdf5, ⟨"h"⟩⟩, ⟨scienceTree, .parmetis, ⟨"h"⟩⟩,
          ⟨scienceTree, .hdf5, ⟨"h"⟩⟩] = true ∧
      namesWithoutStart "boost_" (runAll { Profile.plain with libraries := ["parmetis"] }
        [⟨scienceTree, .hdf5, ⟨"h"⟩⟩, ⟨scienceTree, .parmetis, ⟨"h"⟩⟩,
          ⟨scienceTree, .hdf5, ⟨"h"⟩⟩]).libraries = ["parmetis", "hdf5", "z"] := by
  have succeed : allSucceed { Profile.plain with libraries := ["parmetis"] }
      [⟨scienceTree, .hdf5, ⟨"h"⟩⟩, ⟨scienceTree, .parmetis, ⟨"h"⟩⟩,
        ⟨scienceTree, .hdf5, ⟨"h"⟩⟩] = true := by decide
  exact ⟨succeed, (libraries_of_run succeed).1⟩

end Runs

end Relocatable
end HostLink
