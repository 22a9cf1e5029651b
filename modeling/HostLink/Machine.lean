import HostLink.Host

namespace HostLink

/-!
Machines.  A machine is a profile with hooks, which are functions that a run calls at fixed
points: one before anything is resolved, one when versions of libraries are asked for, and
one when the build is complete.
-/

/-- Where the definition of a machine comes from. -/
inductive MachineSource where
  | builtIn
  | file (path : Path)
  deriving DecidableEq

namespace MachineSource

def text : MachineSource → String
  | .builtIn => "built-in"
  | .file path => path.text

end MachineSource

/-- Environment variables. -/
abbrev Environment := OrderedMap String String

/-- The value of a variable, if it is set and not empty. -/
def Environment.nonEmpty? (env : Environment) (name : String) : Option String :=
  (env.find? name).filter (· ≠ "")

/-- A machine: its name, its profile, and its hooks.  Hooks take the project root from which
their paths count. -/
structure Machine where
  id : String
  source : MachineSource
  profile : Profile
  /-- Runs before anything is resolved. -/
  onConfigure : Option (Preferences → Build → Path → Adjustment Unit)
  /-- Switches to the versions that were asked for. -/
  onPreferences : Option (Preferences → Path → Adjustment Unit)
  /-- Runs when the tools of the build are complete. -/
  onModifyBuild : Option (Action Misconfiguration Build Unit)

namespace Machine

/-- A machine without hooks. -/
def ofProfile (id : String) (profile : Profile) : Machine where
  id := id
  source := .builtIn
  profile := profile
  onConfigure := none
  onPreferences := none
  onModifyBuild := none

/-- Whether the machine can do anything about versions that are asked for. -/
def handlesPreferences (m : Machine) : Bool :=
  m.onConfigure.isSome || m.onPreferences.isSome

end Machine

/-- Versions that were asked for, as they are shown. -/
def Preferences.shown (preferences : Preferences) : List String :=
  preferences.entries.map (fun x => x.1 ++ "=" ++ x.2)

/-- The versions that were asked for without that of PETSc, which is a matter of the
resolution and not of the machine. -/
def Preferences.withoutPetsc (preferences : Preferences) : Preferences :=
  preferences.filter (fun library _ => library != "petsc")

end HostLink
