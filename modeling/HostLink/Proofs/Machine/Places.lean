import HostLink.Proofs.Machine.Versions
import HostLink.Proofs.Relocation.Frame

namespace HostLink

/-!
# What the places and versions of a machine file do

The hooks of a machine file are runs of relocations, and CVODE comes behind those for the
places.  No relocation touches a file, so the header of CVODE is read from the tree with which
the run started.  From there on nothing in the hooks writes the version again, or drops the
libraries that came with it.
-/

namespace Host

theorem succeeds_require_iff {root path : Path} {component : String} {h h' : Host} {a : Unit} :
    (require root path component).Succeeds h a h' ↔
      h.tree.present (Path.absolute root path) = true ∧ h' = h := by
  unfold require
  rw [Action.succeeds_state_bind_iff, Action.succeeds_ofExcept_iff, FileTree.require_eq_ok_iff]

/-- A version of CVODE that is found is recorded. -/
theorem succeeds_findCvode_iff {root headers : Path} {version : UInt32} {h h' : Host} :
    (findCvode root headers).Succeeds h version h' ↔
      Sundials.versionInHeader h.tree (Sundials.headerPath (Path.absolute root headers)) =
          .ok version ∧
        h' = { h with profile := { h.profile with cvodeVersion := some version } } := by
  unfold findCvode Sundials.installedVersion adjust
  simp only [Action.succeeds_bind_iff, Action.succeeds_state_iff, Action.succeeds_ofExcept_iff,
    Action.succeeds_note_iff, Action.succeeds_update_iff, Action.succeeds_pure_iff]
  constructor
  · rintro ⟨_, _, ⟨rfl, rfl⟩, _, _, ⟨stated, _, ⟨read, rfl⟩, _, _, rfl, rfl, rfl⟩, _, _, rfl, rfl,
      rfl⟩
    exact ⟨read, rfl⟩
  · rintro ⟨read, rfl⟩
    exact ⟨h, h, ⟨rfl, rfl⟩, version, h, ⟨version, h, ⟨read, rfl⟩, (), h, rfl, rfl, rfl⟩, (), _,
      rfl, rfl, rfl⟩

/-- What holds between the hosts before and after relocations from an absolute root. -/
structure Framed (h h' : Host) : Prop where
  tree : h'.tree = h.tree
  profile : h.profile.Framed h'.profile

namespace Framed

theorem refl (h : Host) : h.Framed h :=
  ⟨rfl, .refl h.profile⟩

theorem trans {h h₁ h₂ : Host} (first : h.Framed h₁) (second : h₁.Framed h₂) : h.Framed h₂ :=
  ⟨second.tree.trans first.tree, first.profile.trans second.profile⟩

variable {root : Path}

theorem of_relocate (rooted : root.isAbsolute = true) {l : Relocatable} {base : Path}
    {h h' : Host} (succeeds : (relocate root l base).Succeeds h () h') : h.Framed h' := by
  rcases succeeds_onProfile_iff.mp succeeds with ⟨p, done, same⟩
  rw [same]
  exact ⟨rfl, .of_succeeds (Path.isAbsolute_absolute rooted base) done⟩

/-- The places of a machine file are relocated to one after another. -/
theorem of_forEach (rooted : root.isAbsolute = true) {places : List (Relocatable × Path)}
    {h h' : Host}
    (succeeds : (Action.forEach (fun x => relocate root x.1 x.2) places).Succeeds h () h') :
    h.Framed h' := by
  induction places generalizing h with
  | nil =>
      rw [Action.succeeds_forEach_nil_iff.mp succeeds]
      exact refl h
  | cons place rest inductionHypothesis =>
      rcases Action.succeeds_forEach_cons_iff.mp succeeds with ⟨h₁, relocated, others⟩
      exact (of_relocate rooted relocated).trans (inductionHypothesis others)

/-- So are the places that a table has for the versions asked for. -/
theorem of_switchAll (rooted : root.isAbsolute = true) {table : VersionTable}
    {entries : List (String × String)} {missing : List String} {h h' : Host}
    (succeeds : (table.switchAll root entries).Succeeds h missing h') : h.Framed h' := by
  induction entries generalizing h missing with
  | nil =>
      rcases Action.succeeds_pure_iff'.mp succeeds with ⟨_, same⟩
      rw [same]
      exact refl h
  | cons entry rest inductionHypothesis =>
      rcases VersionTable.succeeds_switchAll_cons_iff.mp succeeds with
        ⟨_, _, h₁, _, relocated, others⟩ | ⟨_, _, _, others⟩
      · exact (of_relocate rooted relocated).trans (inductionHypothesis others)
      · exact inductionHypothesis others

end Framed
end Host

namespace Places

/-- All places are relocated to, and CVODE comes last. -/
theorem succeeds_use_iff {p : Places} {root : Path} {h h' : Host} :
    (p.use root).Succeeds h () h' ↔
      ∃ h₀, (Action.forEach (fun x => Host.relocate root x.1 x.2) p.relocations).Succeeds h () h₀ ∧
        match p.cvode with
        | some place => (useCvode root place).Succeeds h₀ () h'
        | .none => h' = h₀ := by
  have shared : (p.use root).Succeeds h () h' ↔
      ∃ h₀, (Action.forEach (fun x => Host.relocate root x.1 x.2) p.relocations).Succeeds h () h₀ ∧
        (match p.cvode with
        | some place => useCvode root place
        | .none => Action.pure () : Adjustment Unit).Succeeds h₀ () h' := by
    refine Action.succeeds_bind_iff.trans ?_
    exact ⟨fun ⟨_, h₀, relocated, last⟩ => ⟨h₀, relocated, last⟩,
      fun ⟨h₀, relocated, last⟩ => ⟨(), h₀, relocated, last⟩⟩
  rw [shared]
  cases p.cvode with
  | none => simp only [Action.succeeds_pure_iff', true_and]
  | some place => exact Iff.rfl

/-- Places that are all absent do nothing. -/
theorem succeeds_use_of_isEmpty {p : Places} (absent : p.isEmpty = true) (root : Path) (h : Host) :
    (p.use root).Succeeds h () h := by
  have same : p = Places.none := eq_of_beq absent
  rw [same]
  exact ⟨rfl, rfl⟩

/-- Libraries are all that is written to add those that are missing. -/
theorem foldl_addMissing_eq (p : Profile) (names : List String) :
    ∃ libraries, names.foldl addMissing p = { p with libraries := libraries } := by
  induction names generalizing p with
  | nil => exact ⟨p.libraries, rfl⟩
  | cons first rest inductionHypothesis =>
      rcases Profile.addLibrariesOnce_eq p first [first] with ⟨once, added⟩
      rcases inductionHypothesis (addMissing p first) with ⟨libraries, same⟩
      refine ⟨libraries, same.trans ?_⟩
      unfold addMissing
      rw [added]

/-- The directory of the headers of CVODE. -/
def cvodeHeaders (root place : Path) : Path :=
  (Path.absolute root place).child "include"

/-- The profile with CVODE from a place, once its version is known. -/
def withCvode (root place : Path) (version : UInt32) (p : Profile) : Profile :=
  (cvodeLibraries.foldl addMissing
    (({ p with cvodeVersion := some version }.addInclude (cvodeHeaders root place)).addLibPath
      ((Path.absolute root place).child "lib"))).switch .cvode true

/-- The version is recorded, the search paths get one entry each, and CVODE is switched on. -/
theorem withCvode_eq (root place : Path) (version : UInt32) (p : Profile) :
    ∃ libraries, withCvode root place version p =
      { p with
        cvodeVersion := some version
        includePaths := p.includePaths ++ [cvodeHeaders root place]
        libPaths := p.libPaths ++ [(Path.absolute root place).child "lib"]
        libraries := libraries
        features := p.features.insert Feature.cvode.key true } := by
  unfold withCvode
  rcases foldl_addMissing_eq
    (({ p with cvodeVersion := some version }.addInclude (cvodeHeaders root place)).addLibPath
      ((Path.absolute root place).child "lib")) cvodeLibraries with ⟨libraries, same⟩
  refine ⟨libraries, ?_⟩
  rw [same]
  rfl

/-- CVODE is used exactly if its place is there and its header states a version. -/
theorem succeeds_useCvode_iff {root place : Path} {h h' : Host} :
    (useCvode root place).Succeeds h () h' ↔
      h.tree.present (Path.absolute root place) = true ∧
      ∃ version, Sundials.versionInHeader h.tree
          (Sundials.headerPath (Path.absolute root (cvodeHeaders root place))) = .ok version ∧
        h' = { h with profile := withCvode root place version h.profile } := by
  unfold useCvode Host.adjust withCvode cvodeHeaders
  simp only [Action.succeeds_bind_iff, Host.succeeds_require_iff, Host.succeeds_findCvode_iff,
    Action.succeeds_update_iff]
  constructor
  · rintro ⟨_, _, ⟨present, rfl⟩, version, _, ⟨stated, rfl⟩, rfl⟩
    exact ⟨present, version, stated, rfl⟩
  · rintro ⟨present, version, stated, rfl⟩
    exact ⟨(), h, ⟨present, rfl⟩, version, _, ⟨stated, rfl⟩, rfl⟩

end Places
end HostLink
