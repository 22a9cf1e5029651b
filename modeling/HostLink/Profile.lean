import HostLink.Build
import HostLink.Feature

namespace HostLink

/-!
What a machine says about itself: where its libraries are installed, which of them it uses,
and which commands and flags its compilers take.  A path that is absent means that the
library is not installed; a relative one counts from the project root.
-/

/-- The description of a machine. -/
structure Profile where
  petsc22 : Option Path
  petsc23 : Option Path
  petsc30 : Option Path
  petsc31 : Option Path
  /-- The name of the PETSc build that is used where no other name is given. -/
  arch : String
  archOptimised : Option String
  archProfiling : Option String
  archProduction : Option String
  dealii : Option Path
  intel : Option Path
  /-- The command that takes the place of the Intel compiler inside the MPI wrapper. -/
  icpc : Option String
  features : OrderedMap String Bool
  cvodeVersion : Option UInt32
  includePaths : List Path
  libPaths : List Path
  libraries : List String
  blasLapack : List String
  blasLapackProduction : Option (List String)
  tools : Tools
  compileFlags : String
  linkFlags : String
  /-- Where each relocated library was last found. -/
  relocations : OrderedMap String Path
  deriving DecidableEq

namespace Profile

def usualArch : String := "linux-gnu"

/-- A machine without any installation. -/
def plain : Profile where
  petsc22 := none
  petsc23 := none
  petsc30 := none
  petsc31 := none
  arch := usualArch
  archOptimised := none
  archProfiling := none
  archProduction := none
  dealii := none
  intel := none
  icpc := none
  features := OrderedMap.empty
  cvodeVersion := none
  includePaths := []
  libPaths := []
  libraries := []
  blasLapack := ["blas", "lapack"]
  blasLapackProduction := none
  tools := OrderedMap.empty
  compileFlags := ""
  linkFlags := ""
  relocations := OrderedMap.empty

instance : Inhabited Profile := ⟨plain⟩

/-- Where a release of PETSc is installed. -/
def petscPath (p : Profile) : PetscRelease → Option Path
  | .v2_2 => p.petsc22
  | .v2_3 => p.petsc23
  | .v3_0 => p.petsc30
  | .v3_1 => p.petsc31

/-- The names under which a flavour of PETSc may be found, best first.  The name for the
flavour comes first, then the usual one, and then the optimised one, since some installations
have no other. -/
def archNames (p : Profile) (flavour : Flavour) : List String :=
  let optimised := p.archOptimised.getD p.arch
  let own :=
    match flavour with
    | .production => [p.archProduction.getD p.arch]
    | .profiling => [p.archProfiling.getD p.arch]
    | .optimised => [optimised]
    | .debug => []
  own ++ [p.arch, optimised]

theorem archNames_debug_suffix (p : Profile) (flavour : Flavour) :
    p.archNames .debug <:+ p.archNames flavour := by
  cases flavour
  · exact ⟨[], rfl⟩
  all_goals exact ⟨_, rfl⟩

/-- Whether the machine uses an optional library. -/
def uses (p : Profile) (f : Feature) : Bool :=
  (p.features.find? f.key).getD false

/-- Switches an optional library on or off. -/
def switch (p : Profile) (f : Feature) (on : Bool) : Profile :=
  { p with features := p.features.insert f.key on }

@[simp]
theorem uses_switch (p : Profile) (f : Feature) (on : Bool) : (p.switch f on).uses f = on := by
  simp [uses, switch]

/-- The optional libraries that the machine uses. -/
def used (p : Profile) : List Feature :=
  Feature.all.filter p.uses

/-- Names that are switched on but stand for no library. -/
def unknownFeatures (p : Profile) : List String :=
  (p.features.entries.filter (fun x => x.2 && (Feature.ofKey? x.1).isNone)).map Prod.fst

/-- The optional libraries that the machine uses; a name that stands for none is noted. -/
def usedNoting {ε σ : Type} (p : Profile) : Action ε σ (List Feature) := do
  Action.forEach
    (fun name => Action.note .warning ("ignoring unknown optional library `" ++ name ++ "`"))
    p.unknownFeatures
  return p.used

/-- The BLAS and LAPACK libraries of a build. -/
def blasLapackFor (p : Profile) (production : Bool) : List String :=
  match p.blasLapackProduction, production with
  | some libraries, true => libraries
  | _, _ => p.blasLapack

/-- The CVODE version that is assumed where none was found. -/
def usualCvodeVersion : UInt32 := 20300

/-- The preprocessor symbols of the optional libraries.  The version of SUNDIALS comes before
the symbol of CVODE, so that a header that asks for the version sees it. -/
def symbols {ε σ : Type} (p : Profile) : Action ε σ (List String) := do
  let version :=
    if p.uses .cvode then
      ["CHASTE_SUNDIALS_VERSION=" ++ toString (p.cvodeVersion.getD usualCvodeVersion).toNat]
    else []
  let used ← p.usedNoting
  return version ++ used.map Feature.symbol

end Profile

end HostLink
