import HostLink.Proofs.Configuration.Run
import HostLink.Proofs.Machine.Versions

namespace HostLink
namespace Configure

/-!
# What becomes of the versions asked for

A machine file can do two things about a request for versions of libraries.  Its table of
versions turns the request into relocations, and a request that the table does not meet is
refused.  Without a table the request is refused altogether, unless the file gives places of
libraries: these are taken for an answer to the request, whatever it says.

So a configuration shows that the request was met, except for files that have places and no
table.  For these the resolution starts from what the places alone have made of the host.
-/

/-- A file answers a request by places alone if it has places and no table of versions. -/
def placesOnly (d : MachineDescription) : Bool :=
  !d.places.isEmpty && d.versions.isEmpty

/-- With a request, the machine of a file switches to it or takes its places for an answer. -/
theorem switched_of_succeeds {d : MachineDescription} {id : String} {source : MachineSource}
    {preferences : Preferences} {root : Path} {h h' : Host}
    (asked : preferences.isEmpty = false)
    (adjusted :
      (preferenceAdjustment (d.toMachine id source) preferences root).Succeeds h () h') :
    (d.versions.isEmpty = false ∧ (d.versions.switch id preferences root).Succeeds h () h') ∨
      (placesOnly d = true ∧ h' = h) := by
  unfold preferenceAdjustment placesOnly at *
  simp only [asked, Bool.false_eq_true, if_false] at adjusted
  cases table : d.versions.isEmpty with
  | false =>
      simp only [MachineDescription.toMachine, table, Bool.false_eq_true, if_false] at adjusted
      exact Or.inl ⟨rfl, adjusted⟩
  | true =>
      cases places : d.places.isEmpty with
      | true =>
          simp only [MachineDescription.toMachine, Machine.handlesPreferences, table, places]
            at adjusted
          exact absurd adjusted Action.not_succeeds_fail
      | false =>
          simp only [MachineDescription.toMachine, Machine.handlesPreferences, table, places]
            at adjusted
          exact Or.inr ⟨rfl, (Action.succeeds_pure_iff'.mp adjusted).2⟩

/-- A request that was met is recorded, library by library. -/
theorem recorded_of_succeeds {d : MachineDescription} {id : String} {source : MachineSource}
    {preferences : Preferences} {root : Path} {h h' : Host} (tabled : placesOnly d = false)
    (adjusted :
      (preferenceAdjustment (d.toMachine id source) preferences root).Succeeds h () h')
    {library version : String} (asked : (library, version) ∈ preferences.entries)
    (other : library ≠ "petsc") :
    ∃ path, (OrderedMap.find? d.versions library).bind (·.find? version) = some path ∧
      h'.profile.relocations.find? library = some (Path.absolute root path) := by
  have request : preferences.isEmpty = false := by
    cases vacant : preferences.isEmpty with
    | false => rfl
    | true =>
        rw [List.isEmpty_iff.mp vacant] at asked
        cases asked
  rcases switched_of_succeeds request adjusted with ⟨_, switched⟩ | ⟨untabled, _⟩
  · exact VersionTable.recorded_of_switchAll (Preferences.pairwise_withoutPetsc preferences)
      (VersionTable.succeeds_switch_iff.mp switched) _ (Preferences.mem_withoutPetsc asked other)
  · rw [tabled] at untabled
    cases untabled

/-- Without a table, a request changes nothing. -/
theorem eq_of_placesOnly {d : MachineDescription} {id : String} {source : MachineSource}
    {preferences : Preferences} {root : Path} {h h' : Host} (untabled : placesOnly d = true)
    (adjusted :
      (preferenceAdjustment (d.toMachine id source) preferences root).Succeeds h () h') :
    h' = h := by
  cases request : preferences.isEmpty with
  | true =>
      unfold preferenceAdjustment at adjusted
      rw [if_pos request] at adjusted
      exact (Action.succeeds_pure_iff'.mp adjusted).2
  | false =>
      rcases switched_of_succeeds request adjusted with ⟨table, _⟩ | ⟨_, same⟩
      · unfold placesOnly at untabled
        rw [table, Bool.and_false] at untabled
        cases untabled
      · exact same

theorem places_of_succeeds {d : MachineDescription} {id : String} {source : MachineSource}
    {b : Build} {root : Path} {h h' : Host} (untabled : placesOnly d = true)
    (adjusted : (firstAdjustment (d.toMachine id source) b root).Succeeds h () h') :
    (d.places.use root).Succeeds h () h' := by
  have places : d.places.isEmpty = false := by
    unfold placesOnly at untabled
    simpa using (Bool.and_eq_true_iff.mp untabled).1
  simpa only [firstAdjustment, MachineDescription.toMachine, places, Bool.false_eq_true, if_false]
    using adjusted

/-! ## Requests and configurations

A file with a place for HDF5 and without versions gives a configuration for every request. -/

def laboratory : MachineDescription where
  summary := none
  places := { Places.none with hdf5 := some ⟨"h"⟩ }
  versions := OrderedMap.empty
  profile := Profile.plain

def laboratorySession : Session where
  tree := (FileTree.empty.makeDirectories? [] ["w", "h"]).getD FileTree.empty
  build := Build.plain.prefer "boost" "1.36"

/-- A configuration does not show that the machine file has the versions that were asked for. -/
theorem not_forall_versions_found :
    ¬ ∀ (d : MachineDescription) (id : String) (source : MachineSource) (options : Options)
        (session : Session) (c : Configuration), session.build.usingDealii = false →
      (configure (d.toMachine id source) options session).result = .ok c →
      ∀ library version, (library, version) ∈ session.build.preferences.entries →
        library ≠ "petsc" →
        ∃ path, (OrderedMap.find? d.versions library).bind (·.find? version) = some path := by
  intro found
  have configured : ∃ c, (configure (laboratory.toMachine "lab" .builtIn) ⟨⟨"/w"⟩, true⟩
      laboratorySession).result = .ok c := ⟨_, rfl⟩
  rcases configured with ⟨c, configured⟩
  have listed := found laboratory "lab" .builtIn ⟨⟨"/w"⟩, true⟩ laboratorySession c rfl configured
    "boost" "1.36" (by decide) (by decide)
  rcases listed with ⟨path, impossible⟩
  cases impossible

/-- A configuration that is given for a request has honoured it, unless the machine file has
places and no versions.  Then the places alone make the host from which the resolution
starts. -/
theorem preferences_of_configure {d : MachineDescription} {id : String} {source : MachineSource}
    {options : Options} {session : Session} {c : Configuration}
    (petsc : session.build.usingDealii = false)
    (configured : (configure (d.toMachine id source) options session).result = .ok c) :
    ∃ h resolved,
      (adjustments (d.toMachine id source) session.build options.root).Succeeds
        ⟨session.tree, d.profile⟩ () h ∧
      (firstResolution h.tree session.build).Succeeds
        (Context.start h.profile options.root options.skipPetsc) c.petscRelease resolved ∧
      (placesOnly d = false →
        ∀ library version, (library, version) ∈ session.build.preferences.entries →
          library ≠ "petsc" →
          ∃ path, (OrderedMap.find? d.versions library).bind (·.find? version) = some path ∧
            h.profile.relocations.find? library = some (Path.absolute options.root path)) ∧
      (placesOnly d = true →
        (d.places.use options.root).Succeeds ⟨session.tree, d.profile⟩ () h) := by
  rcases adjusted_of_configure configured with ⟨h, resolved, adjusted, first⟩
  refine ⟨h, resolved, adjusted, first, ?_, ?_⟩
  · intro tabled library version asked other
    rcases succeeds_adjustments_iff petsc |>.mp adjusted with ⟨_, _, preferred⟩
    exact recorded_of_succeeds tabled preferred asked other
  · intro untabled
    rcases succeeds_adjustments_iff petsc |>.mp adjusted with ⟨h₀, placed, preferred⟩
    rw [eq_of_placesOnly untabled preferred]
    exact places_of_succeeds untabled placed

def tabledLaboratory : MachineDescription :=
  { laboratory with versions :=
      OrderedMap.ofList [("hdf5", OrderedMap.ofList [("1.8", ⟨"h/1.8"⟩)])] }

def tabledSession : Session where
  tree := (FileTree.empty.makeDirectories? [] ["w", "h", "1.8"]).getD FileTree.empty
  build := Build.plain.prefer "hdf5" "1.8"

/-- The version that is asked for takes the place of the one that is always used. -/
theorem preferences_of_configure_laboratory :
    ∃ (h : Host) (resolved : Context),
      (firstResolution h.tree tabledSession.build).Succeeds
        (Context.start h.profile ⟨"/w"⟩ true) none resolved ∧
      h.profile.relocations.find? "hdf5" = some ⟨"/w/h/1.8"⟩ := by
  have configured : ∃ c, (configure (tabledLaboratory.toMachine "lab" .builtIn) ⟨⟨"/w"⟩, true⟩
      tabledSession).result = .ok c ∧ c.petscRelease = none := ⟨_, rfl, rfl⟩
  rcases configured with ⟨c, configured, skipped⟩
  have petsc : tabledSession.build.usingDealii = false := rfl
  rcases preferences_of_configure petsc configured with ⟨h, resolved, _, first, honoured, _⟩
  rcases honoured (by decide) "hdf5" "1.8" (by decide) (by decide) with ⟨path, listed, recorded⟩
  cases listed
  rw [skipped] at first
  exact ⟨h, resolved, first, recorded⟩

end Configure
end HostLink
