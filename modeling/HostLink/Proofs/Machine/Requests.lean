import HostLink.Proofs.Machine.Versions
import HostLink.Proofs.OrderedMap
import HostLink.Proofs.Relocation.Failure

namespace HostLink

/-!
# Which requests a table of versions meets

A table of versions goes through the libraries that are asked for in the order of their names.
It switches to those that it has and writes down the others, so one run over the request does two
things at once.  They do not get in each other's way: whether a relocation succeeds depends on
the files alone, and not on what the relocations before it have made of the profile.  So the end
of a switch can be told from the request, the table and the files.
-/

namespace Relocatable

/-- The libraries that can be relocated, Boost in a version of its own. -/
def all (version : String) : List Relocatable :=
  [.boost version, .hdf5, .xerces, .parmetis, .xsd]

theorem ofName?_eq_some_iff {name version : String} {l : Relocatable} :
    ofName? name version = some l ↔ l ∈ all version ∧ l.key = name := by
  constructor
  · intro named
    refine ⟨?_, key_of_ofName? named⟩
    unfold ofName? at named
    split at named <;> cases named <;> simp [all]
  · rintro ⟨listed, rfl⟩
    simp only [all, List.mem_cons, List.not_mem_nil, or_false] at listed
    rcases listed with rfl | rfl | rfl | rfl | rfl <;> rfl

/-- How a relocation ends is a matter of the files. -/
theorem result_relocate (t : FileTree) (l : Relocatable) (base : Path) (p q : Profile) :
    (l.relocate t base p).result = (l.relocate t base q).result := by
  cases present : t.present base with
  | false => rw [relocate_of_absent p present, relocate_of_absent q present]
  | true =>
      have accepted : ∀ component, t.require base component = .ok () :=
        fun _ => FileTree.require_eq_ok_iff.mpr present
      cases l with
      | boost version =>
          rw [relocate, (relocateBoost_of_present version p present).1,
            (relocateBoost_of_present version q present).1]
      | hdf5 | xerces | parmetis | xsd =>
          simp only [relocate, accepted]
          rfl

end Relocatable

namespace Host

/-- A relocation leaves the files alone, whether it succeeds or fails. -/
theorem tree_relocate (root base : Path) (l : Relocatable) (h : Host) :
    (relocate root l base h).state.tree = h.tree := by
  unfold relocate onProfile
  rw [Action.onPart_state]

theorem result_relocate_of_tree {h h' : Host} (same : h'.tree = h.tree) (root base : Path)
    (l : Relocatable) : (relocate root l base h').result = (relocate root l base h).result := by
  unfold relocate onProfile
  rw [Action.onPart_result, Action.onPart_result, same]
  exact Relocatable.result_relocate _ _ _ _ _

end Host

namespace Preferences

/-- The request is for this version of a library, and it is a matter of the machine. -/
structure Asks (preferences : Preferences) (library version : String) : Prop where
  asked : preferences.find? library = some version
  other : library ≠ "petsc"

theorem asks_iff {preferences : Preferences} {library version : String} :
    preferences.Asks library version ↔ (library, version) ∈ preferences.withoutPetsc.entries := by
  rw [← OrderedMap.find?_eq_some_iff, withoutPetsc, OrderedMap.find?_filter, bne_iff_ne]
  exact ⟨fun asks => ⟨asks.asked, asks.other⟩, fun ⟨asked, other⟩ => ⟨asked, other⟩⟩

theorem Asks.unique {preferences : Preferences} {library version version' : String}
    (asks : preferences.Asks library version) (again : preferences.Asks library version') :
    version = version' :=
  Option.some.inj (asks.asked.symm.trans again.asked)

/-- The machine does not see what is asked for in the name of PETSc. -/
theorem withoutPetsc_insert (preferences : Preferences) (version : String) :
    withoutPetsc (preferences.insert "petsc" version) = preferences.withoutPetsc := by
  apply OrderedMap.eq_of_find?
  intro library
  apply Option.ext
  intro found
  unfold withoutPetsc
  rw [OrderedMap.find?_filter, OrderedMap.find?_filter, bne_iff_ne]
  apply and_congr_left
  intro other
  rw [OrderedMap.find?_insert_of_ne _ other.symm]

theorem withoutPetsc_erase (preferences : Preferences) :
    withoutPetsc (preferences.erase "petsc") = preferences.withoutPetsc := by
  apply OrderedMap.eq_of_find?
  intro library
  apply Option.ext
  intro found
  unfold withoutPetsc
  rw [OrderedMap.find?_filter, OrderedMap.find?_filter, OrderedMap.find?_erase, bne_iff_ne,
    and_assoc, and_self]

end Preferences

namespace VersionTable

/-! ## What is offered, and where it leads -/

/-- The table has a place for a version of a library that can be relocated. -/
structure Offers (table : VersionTable) (library version : String) (l : Relocatable)
    (path : Path) : Prop where
  known : l ∈ Relocatable.all version
  named : l.key = library
  listed : (OrderedMap.find? table library).bind (·.find? version) = some path

/-- The request leads to a relocation, which ends so from whatever profile it starts. -/
def Leads (table : VersionTable) (root : Path) (t : FileTree) (library version : String)
    (ending : Except Misconfiguration Unit) : Prop :=
  ∃ l path, table.Offers library version l path ∧
    ∀ p, (Host.relocate root l path ⟨t, p⟩).result = ending

/-- How a switch ends. -/
inductive Ends (table : VersionTable) (machine : String) (root : Path) (t : FileTree)
    (preferences : Preferences) : Except Misconfiguration Unit → Prop
  /-- Everything that is asked for is offered, and can be relocated. -/
  | met (every : ∀ library version, preferences.Asks library version →
        table.Leads root t library version (.ok ())) :
      Ends table machine root t preferences (.ok ())
  /-- A relocation fails, and none for a library with an earlier name does. -/
  | failed {library version : String} {e : Misconfiguration}
      (asks : preferences.Asks library version)
      (fails : table.Leads root t library version (.error e))
      (first : ∀ library' version', preferences.Asks library' version' →
        KeyOrder.before library' library = true →
        ∀ e', ¬ table.Leads root t library' version' (.error e')) :
      Ends table machine root t preferences (.error e)
  /-- No relocation fails, but something is not offered.  All of that is listed, once and in the
  order of the libraries. -/
  | unsupported {missing : List (String × String)} (nonempty : missing ≠ [])
      (sound : ∀ library version, preferences.Asks library version →
        ∀ e, ¬ table.Leads root t library version (.error e))
      (listed : ∀ library version, (library, version) ∈ missing ↔
        preferences.Asks library version ∧ ∀ l path, ¬ table.Offers library version l path)
      (ordered : missing.Pairwise (fun x y => KeyOrder.before x.1 y.1 = true)) :
      Ends table machine root t preferences
        (.error (.unsupportedPreferences machine (missing.map (fun x => x.1 ++ "=" ++ x.2))))

theorem find?_eq_some_iff_offers {table : VersionTable} {library version : String}
    {l : Relocatable} {path : Path} :
    table.find? library version = some (l, path) ↔ table.Offers library version l path := by
  rw [find?_eq_some_iff, Relocatable.ofName?_eq_some_iff, and_assoc]
  exact ⟨fun ⟨known, named, listed⟩ => ⟨known, named, listed⟩,
    fun offers => ⟨offers.known, offers.named, offers.listed⟩⟩

theorem find?_eq_none_iff_offers {table : VersionTable} {library version : String} :
    table.find? library version = none ↔ ∀ l path, ¬ table.Offers library version l path := by
  rw [Option.eq_none_iff_forall_not_mem]
  constructor
  · intro absent l path offers
    exact absent (l, path) (find?_eq_some_iff_offers.mpr offers)
  · rintro absent ⟨l, path⟩ found
    exact absent l path (find?_eq_some_iff_offers.mp found)

/-! ## The end of a switch as one value -/

/-- How the relocation ends to which a request leads. -/
def ending? (table : VersionTable) (root : Path) (h : Host) (request : String × String) :
    Option (Except Misconfiguration Unit) :=
  (table.find? request.1 request.2).map (fun place => (Host.relocate root place.1 place.2 h).result)

/-- Why the relocation fails to which a request leads. -/
def fault? (table : VersionTable) (root : Path) (h : Host) (request : String × String) :
    Option Misconfiguration :=
  match table.ending? root h request with
  | some (.error e) => some e
  | _ => none

/-- The requests that are not offered. -/
def missing (table : VersionTable) (requests : List (String × String)) : List (String × String) :=
  requests.filter (fun x => (table.find? x.1 x.2).isNone)

theorem ending?_eq_some_iff {table : VersionTable} {root : Path} {h : Host}
    {library version : String} {ending : Except Misconfiguration Unit} :
    table.ending? root h (library, version) = some ending ↔
      table.Leads root h.tree library version ending := by
  unfold ending?
  rw [Option.map_eq_some_iff]
  constructor
  · rintro ⟨⟨l, path⟩, found, ends⟩
    refine ⟨l, path, find?_eq_some_iff_offers.mp found, fun p => ?_⟩
    have same : (⟨h.tree, p⟩ : Host).tree = h.tree := rfl
    exact (Host.result_relocate_of_tree same root path l).trans ends
  · rintro ⟨l, path, offers, ends⟩
    exact ⟨(l, path), find?_eq_some_iff_offers.mpr offers, ends h.profile⟩

theorem fault?_eq_some_iff {table : VersionTable} {root : Path} {h : Host}
    {library version : String} {e : Misconfiguration} :
    table.fault? root h (library, version) = some e ↔
      table.Leads root h.tree library version (.error e) := by
  rw [← ending?_eq_some_iff]
  unfold fault?
  split
  case h_1 e' ends => rw [ends, Option.some.injEq, Option.some.injEq, Except.error.injEq]
  case h_2 other =>
    constructor
    · intro impossible
      cases impossible
    · intro ends
      exact absurd ends (other e)

theorem fault?_eq_none_iff {table : VersionTable} {root : Path} {h : Host}
    {library version : String} :
    table.fault? root h (library, version) = none ↔
      ∀ e, ¬ table.Leads root h.tree library version (.error e) := by
  rw [Option.eq_none_iff_forall_not_mem]
  exact forall_congr' (fun e => not_congr fault?_eq_some_iff)

theorem fault?_of_tree {table : VersionTable} {root : Path} {h h' : Host}
    (same : h'.tree = h.tree) : table.fault? root h' = table.fault? root h := by
  funext request
  unfold fault? ending?
  simp only [Host.result_relocate_of_tree same]

/-- The first relocation that fails ends the switch; without one, what is missing is given. -/
theorem result_switchAll (table : VersionTable) (root : Path) (requests : List (String × String))
    (h : Host) :
    (table.switchAll root requests h).result =
      match requests.findSome? (table.fault? root h) with
      | some e => .error e
      | none => .ok ((table.missing requests).map (fun x => x.1 ++ "=" ++ x.2)) := by
  induction requests generalizing h with
  | nil => rfl
  | cons request rest inductionHypothesis =>
      rcases request with ⟨library, version⟩
      rw [switchAll, List.findSome?_cons]
      cases found : table.find? library version with
      | none =>
          have faultless : table.fault? root h (library, version) = none := by
            simp only [fault?, ending?, found, Option.map_none]
          have longer : table.missing ((library, version) :: rest) =
              (library, version) :: table.missing rest := by
            simp [missing, found]
          simp only [Action.bind_result, inductionHypothesis, faultless, longer]
          cases rest.findSome? (table.fault? root h) with
          | some e => rfl
          | none => rfl
      | some place =>
          rcases place with ⟨l, path⟩
          have same : table.missing ((library, version) :: rest) = table.missing rest := by
            simp [missing, found]
          have own : table.ending? root h (library, version) =
              some (Host.relocate root l path h).result := by
            simp only [ending?, found, Option.map_some]
          simp only [Action.bind_result, Action.note_apply, same]
          cases ends : (Host.relocate root l path h).result with
          | error e =>
              rw [ends] at own
              simp only [fault?, own]
          | ok _ =>
              rw [ends] at own
              -- The rest starts from another profile and from the same files.
              simp only [inductionHypothesis, fault?_of_tree (Host.tree_relocate root path l h)]
              simp only [fault?, own]

theorem result_switch (table : VersionTable) (machine : String) (preferences : Preferences)
    (root : Path) (h : Host) :
    (table.switch machine preferences root h).result =
      match preferences.withoutPetsc.entries.findSome? (table.fault? root h) with
      | some e => .error e
      | none =>
          match table.missing preferences.withoutPetsc.entries with
          | [] => .ok ()
          | missing => .error (.unsupportedPreferences machine
              (missing.map (fun x => x.1 ++ "=" ++ x.2))) := by
  unfold switch
  rw [Action.bind_result, result_switchAll]
  cases preferences.withoutPetsc.entries.findSome? (table.fault? root h) with
  | some e => rfl
  | none =>
      cases table.missing preferences.withoutPetsc.entries with
      | nil => rfl
      | cons x others => rfl

/-! ## The end of a switch as it is described -/

variable {table : VersionTable} {machine : String} {root : Path} {preferences : Preferences}
  {h : Host}

/-- No request leads to a relocation that fails. -/
theorem findSome?_fault_eq_none_iff :
    preferences.withoutPetsc.entries.findSome? (table.fault? root h) = none ↔
      ∀ library version, preferences.Asks library version →
        ∀ e, ¬ table.Leads root h.tree library version (.error e) := by
  rw [List.findSome?_eq_none_iff]
  constructor
  · intro sound library version asks
    exact fault?_eq_none_iff.mp (sound _ (Preferences.asks_iff.mp asks))
  · rintro sound ⟨library, version⟩ listed
    exact fault?_eq_none_iff.mpr (sound library version (Preferences.asks_iff.mpr listed))

/-- Requests are looked at in the order of their libraries, so the first failure is that of the
first library. -/
theorem findSome?_fault_eq_some_iff {e : Misconfiguration} :
    preferences.withoutPetsc.entries.findSome? (table.fault? root h) = some e ↔
      ∃ library version, preferences.Asks library version ∧
        table.Leads root h.tree library version (.error e) ∧
        ∀ library' version', preferences.Asks library' version' →
          KeyOrder.before library' library = true →
          ∀ e', ¬ table.Leads root h.tree library' version' (.error e') := by
  have sorted := preferences.withoutPetsc.sorted
  rw [List.findSome?_eq_some_iff]
  constructor
  · rintro ⟨front, ⟨library, version⟩, behind, whole, fault, sound⟩
    have listed : (library, version) ∈ preferences.withoutPetsc.entries := by
      rw [whole]
      exact List.mem_append_right _ List.mem_cons_self
    refine ⟨library, version, Preferences.asks_iff.mpr listed, fault?_eq_some_iff.mp fault, ?_⟩
    intro library' version' asks earlier
    have other := Preferences.asks_iff.mp asks
    rw [whole] at other sorted
    rcases List.mem_append.mp other with inFront | later
    · exact fault?_eq_none_iff.mp (sound _ inFront)
    · -- What stands behind the first failure does not have an earlier name.
      rcases List.mem_cons.mp later with same | later
      · cases same
        rw [KeyOrder.irrefl] at earlier
        cases earlier
      · have after := (List.pairwise_cons.mp (List.pairwise_append.mp sorted).2.1).1 _ later
        rw [KeyOrder.asymm earlier] at after
        cases after
  · rintro ⟨library, version, asks, fails, first⟩
    rcases List.append_of_mem (Preferences.asks_iff.mp asks) with ⟨front, behind, whole⟩
    refine ⟨front, (library, version), behind, whole, fault?_eq_some_iff.mpr fails, ?_⟩
    rintro ⟨library', version'⟩ inFront
    rw [whole] at sorted
    have listed : (library', version') ∈ preferences.withoutPetsc.entries := by
      rw [whole]
      exact List.mem_append_left _ inFront
    exact fault?_eq_none_iff.mpr (first library' version' (Preferences.asks_iff.mpr listed)
      ((List.pairwise_append.mp sorted).2.2 _ inFront _ List.mem_cons_self))

theorem mem_missing_iff {library version : String} :
    (library, version) ∈ table.missing preferences.withoutPetsc.entries ↔
      preferences.Asks library version ∧ ∀ l path, ¬ table.Offers library version l path := by
  unfold missing
  rw [List.mem_filter, Option.isNone_iff_eq_none, find?_eq_none_iff_offers, Preferences.asks_iff]

theorem pairwise_missing : (table.missing preferences.withoutPetsc.entries).Pairwise
    (fun x y => KeyOrder.before x.1 y.1 = true) :=
  preferences.withoutPetsc.sorted.filter _

/-- A list in the order of the libraries is known by its members. -/
theorem eq_missing {others : List (String × String)}
    (listed : ∀ library version, (library, version) ∈ others ↔
      preferences.Asks library version ∧ ∀ l path, ¬ table.Offers library version l path)
    (ordered : others.Pairwise (fun x y => KeyOrder.before x.1 y.1 = true)) :
    others = table.missing preferences.withoutPetsc.entries := by
  have once : ∀ {xs : List (String × String)},
      xs.Pairwise (fun x y => KeyOrder.before x.1 y.1 = true) → xs.Nodup :=
    fun sorted =>
      sorted.imp (fun before same => KeyOrder.ne_of_before before (congrArg Prod.fst same))
  apply List.Perm.eq_of_pairwise ?_ ordered pairwise_missing
  · rw [List.perm_ext_iff_of_nodup (once ordered) (once pairwise_missing)]
    rintro ⟨library, version⟩
    exact (listed library version).trans mem_missing_iff.symm
  · intro x y _ _ before after
    rw [KeyOrder.asymm before] at after
    cases after

/-- A request leads to one relocation at most, and this ends in one way. -/
theorem Leads.unique {t : FileTree} {library version : String}
    {ending ending' : Except Misconfiguration Unit}
    (leads : table.Leads root t library version ending)
    (again : table.Leads root t library version ending') : ending = ending' := by
  rw [← ending?_eq_some_iff (h := ⟨t, Profile.plain⟩)] at leads again
  exact Option.some.inj (leads.symm.trans again)

/-- A request that is not missing leads to a relocation. -/
theorem exists_leads {library version : String} (asks : preferences.Asks library version)
    (offered : (library, version) ∉ table.missing preferences.withoutPetsc.entries) :
    ∃ ending, table.Leads root h.tree library version ending := by
  cases found : table.find? library version with
  | none => exact absurd (mem_missing_iff.mpr ⟨asks, find?_eq_none_iff_offers.mp found⟩) offered
  | some place =>
      refine ⟨(Host.relocate root place.1 place.2 h).result, ending?_eq_some_iff.mp ?_⟩
      rw [ending?, found, Option.map_some]

/-- The end of a switch is told by the request, the table and the files. -/
theorem result_switch_eq_iff {r : Except Misconfiguration Unit} :
    (table.switch machine preferences root h).result = r ↔
      table.Ends machine root h.tree preferences r := by
  rw [result_switch]
  constructor
  · rintro rfl
    cases faults : preferences.withoutPetsc.entries.findSome? (table.fault? root h) with
    | some e =>
        rcases findSome?_fault_eq_some_iff.mp faults with ⟨library, version, asks, fails, first⟩
        exact .failed asks fails first
    | none =>
        have sound := findSome?_fault_eq_none_iff.mp faults
        cases rejected : table.missing preferences.withoutPetsc.entries with
        | cons x others =>
            simp only
            rw [← rejected]
            refine .unsupported ?_ sound (fun _ _ => mem_missing_iff) pairwise_missing
            rw [rejected]
            exact List.cons_ne_nil _ _
        | nil =>
            refine .met (fun library version asks => ?_)
            have offered : (library, version) ∉ table.missing preferences.withoutPetsc.entries := by
              rw [rejected]
              exact List.not_mem_nil
            have led : ∃ ending, table.Leads root h.tree library version ending :=
              exists_leads asks offered
            rcases led with ⟨ending, leads⟩
            cases ending with
            | ok _ => exact leads
            | error e => exact absurd leads (sound library version asks e)
  · intro ends
    cases ends with
    | met every =>
        have sound : ∀ library version, preferences.Asks library version →
            ∀ e, ¬ table.Leads root h.tree library version (.error e) := by
          intro library version asks e fails
          cases fails.unique (every library version asks)
        have vacant : table.missing preferences.withoutPetsc.entries = [] := by
          apply List.eq_nil_iff_forall_not_mem.mpr
          rintro ⟨library, version⟩ listed
          rcases mem_missing_iff.mp listed with ⟨asks, absent⟩
          rcases every library version asks with ⟨l, path, offers, _⟩
          exact absent l path offers
        rw [findSome?_fault_eq_none_iff.mpr sound, vacant]
    | failed asks fails first =>
        rw [findSome?_fault_eq_some_iff.mpr ⟨_, _, asks, fails, first⟩]
    | @unsupported missing nonempty sound listed ordered =>
        rw [findSome?_fault_eq_none_iff.mpr sound, ← eq_missing listed ordered]
        cases missing with
        | nil => exact absurd rfl nonempty
        | cons x others => rfl

/-- A switch does not see what is asked for in the name of PETSc. -/
theorem switch_congr {others : Preferences}
    (same : others.withoutPetsc = preferences.withoutPetsc) :
    table.switch machine others root = table.switch machine preferences root := by
  unfold switch
  rw [same]

/-! ## The places on record after a switch -/

/-- After a switch that succeeds, the place of a library is the one that the table has for the
request; without a request for it, the place is the one from before. -/
theorem recorded_of_switch {h' : Host}
    (switched : (table.switch machine preferences root).Succeeds h () h') :
    (∀ library version l path, preferences.Asks library version →
        table.Offers library version l path →
        h'.profile.relocations.find? library = some (Path.absolute root path)) ∧
      ∀ library, (∀ version, ¬ preferences.Asks library version) →
        h'.profile.relocations.find? library = h.profile.relocations.find? library := by
  have all := succeeds_switch_iff.mp switched
  constructor
  · intro library version l path asks offers
    rcases recorded_of_switchAll (Preferences.pairwise_withoutPetsc preferences) all _
      (Preferences.asks_iff.mp asks) with ⟨place, listed, recorded⟩
    cases listed.symm.trans offers.listed
    exact recorded
  · intro library unasked
    refine find?_of_switchAll_of_ne ?_ all
    rintro ⟨other, version⟩ listed rfl
    exact unasked version (Preferences.asks_iff.mpr listed)

end VersionTable

namespace MachineDescription

open VersionTable (Ends)

/-- A machine file with a table of versions gives a hook for the versions that are asked for.  It
ends as the request, the table and the files say; when it succeeds, every library that is asked
for is on record with its place in the table, and every other one with its place from before.
What is asked for in the name of PETSc makes no difference to the hook. -/
theorem hook_follows_table {d : MachineDescription} (tabled : d.versions.isEmpty = false)
    (id : String) (source : MachineSource) :
    ∃ hook, (d.toMachine id source).onPreferences = some hook ∧
      ∀ (preferences : Preferences) (root : Path) (h : Host),
        (∀ r, (hook preferences root h).result = r ↔ d.versions.Ends id root h.tree preferences r) ∧
        ((hook preferences root h).result = .ok () →
          (∀ library version l path, preferences.Asks library version →
            d.versions.Offers library version l path →
            (hook preferences root h).state.profile.relocations.find? library =
              some (Path.absolute root path)) ∧
          ∀ library, (∀ version, ¬ preferences.Asks library version) →
            (hook preferences root h).state.profile.relocations.find? library =
              h.profile.relocations.find? library) ∧
        (∀ version, hook (preferences.insert "petsc" version) root h = hook preferences root h) ∧
        hook (preferences.erase "petsc") root h = hook preferences root h := by
  refine ⟨fun preferences root => d.versions.switch id preferences root, ?_, ?_⟩
  · unfold toMachine
    rw [tabled]
    rfl
  · intro preferences root h
    refine ⟨fun r => VersionTable.result_switch_eq_iff, ?_, ?_, ?_⟩
    · intro done
      exact VersionTable.recorded_of_switch (Action.Succeeds.of_result done)
    · intro version
      exact congrFun (VersionTable.switch_congr (preferences.withoutPetsc_insert version)) h
    · exact congrFun (VersionTable.switch_congr preferences.withoutPetsc_erase) h

/-! A laboratory with one version of HDF5, and with a version of Xerces in a place that is not
there. -/

def stockedLaboratory : MachineDescription where
  summary := none
  places := Places.none
  versions := OrderedMap.ofList
    [("hdf5", OrderedMap.ofList [("1.8", ⟨"h/1.8"⟩)]),
      ("xerces", OrderedMap.ofList [("3.0", ⟨"x"⟩)])]
  profile := Profile.plain

def stockedHost : Host where
  tree := (FileTree.empty.makeDirectories? [] ["w", "h", "1.8"]).getD FileTree.empty
  profile := { Profile.plain with relocations := OrderedMap.ofList [("boost", ⟨"/opt/boost"⟩)] }

def plainRequest : Preferences :=
  OrderedMap.ofList [("petsc", "3.0"), ("hdf5", "1.8")]

/-- Boost and VTK are not offered, and HDF5 is. -/
def mixedRequest : Preferences :=
  OrderedMap.ofList [("vtk", "5.4"), ("hdf5", "1.8"), ("boost", "1.36")]

/-- A request that is met puts HDF5 on record and leaves Boost there; one that is met in part is
refused for the other part. -/
theorem hook_follows_table_laboratory :
    stockedLaboratory.versions.isEmpty = false ∧
      ∃ hook, (stockedLaboratory.toMachine "lab" .builtIn).onPreferences = some hook ∧
        (hook plainRequest ⟨"/w"⟩ stockedHost).result = .ok () ∧
        (hook plainRequest ⟨"/w"⟩ stockedHost).state.profile.relocations.find? "hdf5" =
          some ⟨"/w/h/1.8"⟩ ∧
        (hook plainRequest ⟨"/w"⟩ stockedHost).state.profile.relocations.find? "boost" =
          some ⟨"/opt/boost"⟩ ∧
        Ends stockedLaboratory.versions "lab" ⟨"/w"⟩ stockedHost.tree mixedRequest
          (.error (.unsupportedPreferences "lab" ["boost=1.36", "vtk=5.4"])) := by
  have tabled : stockedLaboratory.versions.isEmpty = false := rfl
  rcases hook_follows_table tabled "lab" .builtIn with ⟨hook, installed, follows⟩
  cases installed
  rcases follows plainRequest ⟨"/w"⟩ stockedHost with ⟨_, recorded, _⟩
  rcases follows mixedRequest ⟨"/w"⟩ stockedHost with ⟨ends, _⟩
  have done : (stockedLaboratory.versions.switch "lab" plainRequest ⟨"/w"⟩ stockedHost).result =
      .ok () := rfl
  rcases recorded done with ⟨places, others⟩
  refine ⟨tabled, _, rfl, done, ?_, ?_, (ends _).mp rfl⟩
  · exact places "hdf5" "1.8" .hdf5 ⟨"h/1.8"⟩ ⟨by decide, by decide⟩ ⟨by decide, rfl, by decide⟩
  · refine others "boost" (fun version asks => ?_)
    have absent : plainRequest.find? "boost" = none := by decide
    rw [asks.asked] at absent
    cases absent

end MachineDescription
end HostLink
