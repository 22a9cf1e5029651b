import HostLink.Proofs.Configuration.Stages

namespace HostLink

/-!
# CVODE from its place to the symbols

A place for CVODE in a machine file is read once, when the hooks use it: the header below it
states a version, and this version is what the compiled code is told in the end.  On the way
there are the relocations for the versions asked for and the resolution of PETSc or Deal.II.
A profile is *equipped* with CVODE in a version as long as it uses CVODE, records that version
and lists both libraries, and none of these steps changes that.
-/

namespace Profile

/-- CVODE is used in this version, and its libraries are linked. -/
structure Equipped (p : Profile) (version : UInt32) : Prop where
  uses : p.uses .cvode = true
  version : p.cvodeVersion = some version
  libraries : ∀ name ∈ Places.cvodeLibraries, name ∈ p.libraries

theorem mem_addMissing_self (p : Profile) (library : String) :
    library ∈ (Places.addMissing p library).libraries := by
  unfold Places.addMissing addLibrariesOnce
  split
  · assumption
  · exact List.mem_append_right _ List.mem_cons_self

theorem mem_foldl_addMissing_of_mem {p : Profile} {library : String}
    (listed : library ∈ p.libraries) (others : List String) :
    library ∈ (others.foldl Places.addMissing p).libraries := by
  induction others generalizing p with
  | nil => exact listed
  | cons other rest inductionHypothesis =>
      exact inductionHypothesis (Relocatable.mem_addLibrariesOnce listed other [other])

/-- Every library that is added unless it is there is there in the end. -/
theorem mem_foldl_addMissing {p : Profile} {library : String} {libraries : List String}
    (listed : library ∈ libraries) : library ∈ (libraries.foldl Places.addMissing p).libraries := by
  induction libraries generalizing p with
  | nil => cases listed
  | cons first rest inductionHypothesis =>
      rcases List.mem_cons.mp listed with same | later
      · rw [same]
        exact mem_foldl_addMissing_of_mem (mem_addMissing_self p first) rest
      · exact inductionHypothesis later

/-- Using CVODE from its place equips the profile. -/
theorem equipped_withCvode (root place : Path) (version : UInt32) (p : Profile) :
    (Places.withCvode root place version p).Equipped version where
  uses := uses_switch _ .cvode true
  version := by
    rcases Places.withCvode_eq root place version p with ⟨libraries, same⟩
    rw [same]
  libraries name listed := by
    unfold Places.withCvode switch
    exact mem_foldl_addMissing listed

/-- Relocations leave a profile equipped. -/
theorem Equipped.framed {p p' : Profile} {version : UInt32} (equipped : p.Equipped version)
    (framed : p.Framed p') : p'.Equipped version where
  uses := by
    have used := equipped.uses
    unfold Profile.uses at used ⊢
    rw [framed.features]
    exact used
  version := framed.cvodeVersion.trans equipped.version
  libraries name listed := by
    have spared : ∀ name ∈ Places.cvodeLibraries, Relocatable.isSpared name = true := by decide
    exact framed.libraries name (equipped.libraries name listed) (spared name listed)

/-- The symbols of an equipped profile begin with the version, and CVODE comes next. -/
theorem Equipped.symbolList_eq {p : Profile} {version : UInt32} (equipped : p.Equipped version) :
    ∃ others, others.Sublist [Feature.vtk.symbol, Feature.adaptivity.symbol] ∧
      p.symbolList = ("CHASTE_SUNDIALS_VERSION=" ++ toString version.toNat) ::
        Feature.cvode.symbol :: others := by
  refine ⟨([Feature.vtk, .adaptivity].filter p.uses).map Feature.symbol, ?_, ?_⟩
  · exact List.Sublist.map Feature.symbol List.filter_sublist
  · unfold symbolList used Feature.all
    rw [if_pos equipped.uses, equipped.version, List.filter_cons_of_pos equipped.uses]
    rfl

end Profile

namespace Configure

/-- The symbol that states a version of SUNDIALS. -/
def versionSymbol (version : UInt32) : String :=
  "CHASTE_SUNDIALS_VERSION=" ++ toString version.toNat

/-- The version symbol is told from the symbols of the libraries by its eighth character. -/
theorem versionSymbol_ne (version : UInt32) (f : Feature) : versionSymbol version ≠ f.symbol := by
  intro same
  have eighth : (versionSymbol version).toList[7]? = f.symbol.toList[7]? := by rw [same]
  unfold versionSymbol at eighth
  rw [String.toList_append, List.getElem?_append_left (by decide)] at eighth
  cases f <;> revert eighth <;> decide

/-- The hooks of a machine file with a place for CVODE leave a profile that is equipped with the
version that the header below the place states. -/
theorem equipped_of_adjustments {d : MachineDescription} {id : String} {source : MachineSource}
    {b : Build} {root place : Path} {h h' : Host} (rooted : root.isAbsolute = true)
    (placed : d.places.cvode = some place)
    (adjusted : (adjustments (d.toMachine id source) b root).Succeeds h () h') :
    ∃ version, Sundials.versionInHeader h.tree
        (Sundials.headerPath (Places.cvodeHeaders root place)) = .ok version ∧
      h'.profile.Equipped version := by
  rcases used_of_adjustments rooted adjusted with ⟨h₁, used, behind⟩
  rcases Places.succeeds_use_iff.mp used with ⟨h₀, relocated, last⟩
  rw [placed] at last
  rcases Places.succeeds_useCvode_iff.mp last with ⟨_, version, stated, left⟩
  -- The header directory is made absolute a second time when the version is looked for.
  have inner : (Path.Step.name "include").Inner := ⟨rfl, by decide⟩
  have settled : Path.absolute root (Places.cvodeHeaders root place) =
      Places.cvodeHeaders root place := Path.absolute_child_absolute rooted place inner
  rw [settled, (Host.Framed.of_forEach rooted relocated).tree] at stated
  have equipped : h₁.profile.Equipped version := by
    rw [left]
    exact Profile.equipped_withCvode root place version h₀.profile
  exact ⟨version, stated, equipped.framed behind.profile⟩

/-- A place for CVODE decides what the compiled code is told.  If the machine file names one and
the configuration succeeds, the header below it states a version.  The symbols begin with this
version and then CVODE, each of them once, and the libraries of SUNDIALS are linked. -/
theorem cvode_of_configure {d : MachineDescription} {id : String} {source : MachineSource}
    {place : Path} {options : Options} {session : Session} {c : Configuration}
    (rooted : options.root.isAbsolute = true) (placed : d.places.cvode = some place)
    (configured : (configure (d.toMachine id source) options session).result = .ok c) :
    ∃ version,
      Sundials.versionInHeader session.tree
          (Sundials.headerPath ((Path.absolute options.root place).child "include")) =
        .ok version ∧
      (∃ others, c.symbols =
          ("CHASTE_SUNDIALS_VERSION=" ++ toString version.toNat) :: "CHASTE_CVODE" :: others) ∧
      c.symbols.count ("CHASTE_SUNDIALS_VERSION=" ++ toString version.toNat) = 1 ∧
      c.symbols.count "CHASTE_CVODE" = 1 ∧
      "sundials_cvode" ∈ c.line.libraries ∧ "sundials_nvecserial" ∈ c.line.libraries := by
  rcases stages_of_configure configured with ⟨h, resolved, adjusted, _, line, symbols⟩
  rcases equipped_of_adjustments rooted placed adjusted with ⟨version, stated, equipped⟩
  rcases equipped.symbolList_eq with ⟨others, chosen, listed⟩
  have named : c.symbols = versionSymbol version :: Feature.cvode.symbol :: others :=
    symbols.trans listed
  have fresh : versionSymbol version ∉ others := by
    intro again
    have known := chosen.subset again
    rcases List.mem_cons.mp known with vtk | adaptivity
    · exact versionSymbol_ne version .vtk vtk
    · exact versionSymbol_ne version .adaptivity (List.mem_singleton.mp adaptivity)
  have other : Feature.cvode.symbol ∉ others := by
    intro again
    exact absurd (chosen.subset again) (by decide)
  have linked : ∀ name ∈ Places.cvodeLibraries, name ∈ c.line.libraries := by
    intro name wanted
    rw [line]
    apply List.mem_append_right
    apply List.mem_append_left
    exact List.mem_append_left _ (equipped.libraries name wanted)
  refine ⟨version, stated, ⟨others, named⟩, ?_, ?_, linked _ (by decide), linked _ (by decide)⟩
  · change c.symbols.count (versionSymbol version) = 1
    rw [named, List.count_cons_self, List.count_cons_of_ne (versionSymbol_ne version .cvode).symm,
      List.count_eq_zero.mpr fresh]
  · change c.symbols.count Feature.cvode.symbol = 1
    rw [named, List.count_cons_of_ne (versionSymbol_ne version .cvode), List.count_cons_self,
      List.count_eq_zero.mpr other]

/-! A machine file that switches CVODE off, and names an older version than its place has. -/

def solverHost : MachineDescription where
  summary := none
  places := { Places.none with hdf5 := some ⟨"h"⟩, cvode := some ⟨"s"⟩ }
  versions := OrderedMap.ofList [("hdf5", OrderedMap.ofList [("1.8", ⟨"h/1.8"⟩)])]
  profile :=
    { Profile.plain with
      features := OrderedMap.ofList [("cvode", false), ("vtk", true)]
      cvodeVersion := some 20300 }

def solverSession : Session where
  tree := ((FileTree.empty.makeDirectories? [] ["w", "h", "1.8"]).bind (fun t =>
    t.putFile? ["w", "s", "include", "sundials", "sundials_config.h"]
      (Text.asciiBytes "#define SUNDIALS_PACKAGE_VERSION \"2.4.0\"\n") false)).getD FileTree.empty
  build := Build.plain.prefer "hdf5" "1.8"

/-- The place outweighs what the file says of CVODE elsewhere. -/
theorem cvode_of_configure_solverHost :
    ∃ c, (configure (solverHost.toMachine "solver" .builtIn) ⟨⟨"/w"⟩, true⟩ solverSession).result =
        .ok c ∧
      (∃ others, c.symbols = "CHASTE_SUNDIALS_VERSION=20400" :: "CHASTE_CVODE" :: others) ∧
      c.symbols.count "CHASTE_CVODE" = 1 ∧ "sundials_cvode" ∈ c.line.libraries := by
  have succeeds : (configure (solverHost.toMachine "solver" .builtIn) ⟨⟨"/w"⟩, true⟩
      solverSession).result.toBool = true := by decide +kernel
  have read : (Sundials.versionInHeader solverSession.tree (Sundials.headerPath
      ((Path.absolute ⟨"/w"⟩ ⟨"s"⟩).child "include"))).toOption = some 20400 := by decide +kernel
  have rooted : (⟨"/w"⟩ : Path).isAbsolute = true := rfl
  have placed : solverHost.places.cvode = some ⟨"s"⟩ := rfl
  cases configured : (configure (solverHost.toMachine "solver" .builtIn) ⟨⟨"/w"⟩, true⟩
      solverSession).result with
  | error e =>
      rw [configured] at succeeds
      cases succeeds
  | ok c =>
      rcases cvode_of_configure rooted placed configured with
        ⟨version, stated, begins, _, once, linked, _⟩
      rw [stated] at read
      cases read
      exact ⟨c, rfl, begins, once, linked⟩

end Configure
end HostLink
