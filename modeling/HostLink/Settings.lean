import HostLink.Failure
import HostLink.Machine
import HostLink.Toml.Decoding
import HostLink.Toml.Reader

namespace HostLink

/-!
Settings of a user and of a project.  Each is a TOML file; what the project sets counts before
what the user sets.  A file that cannot be used counts as if it set nothing, and is noted.
-/

/-- What settings can set. -/
structure Settings where
  /-- The machine to use. -/
  machine : Option String
  /-- Where machine files are. -/
  machinesDir : Option Path
  /-- The build for a request that gives none. -/
  defaultBuild : Option String
  deriving DecidableEq

namespace Settings

/-- Settings that set nothing. -/
def none : Settings where
  machine := .none
  machinesDir := .none
  defaultBuild := .none

instance : Inhabited Settings := ⟨none⟩

/-- The second settings where they set something, and the first ones elsewhere. -/
def overlay (s t : Settings) : Settings where
  machine := t.machine.or s.machine
  machinesDir := t.machinesDir.or s.machinesDir
  defaultBuild := t.defaultBuild.or s.defaultBuild

@[simp]
theorem none_overlay (s : Settings) : none.overlay s = s := by
  cases s
  simp [overlay, none]

@[simp]
theorem overlay_none (s : Settings) : s.overlay none = s := by
  cases s
  simp [overlay, none]

theorem overlay_assoc (s t u : Settings) :
    (s.overlay t).overlay u = s.overlay (t.overlay u) := by
  simp [overlay, Option.or_assoc]

/-- The directory above that of a settings file. -/
def home? (path : Path) : Option Path :=
  path.parent?.bind Path.parent?

/-- A directory for machine files as it is meant in a settings file: a relative one is taken
from the directory above that of the file. -/
def rebased (file : Path) (directory : Path) : Path :=
  if directory.isAbsolute then directory
  else
    match home? file with
    | some home => home.join directory
    | .none => directory

/-- The settings that the members of a document give. -/
def ofMembers? (ms : Toml.Members) : Option Settings := do
  let build? := fun v => do
    let ms ← Toml.asRecord? ["default"] v
    Toml.optional? ms "default" Toml.asText?
  return {
    machine := ← Toml.optional? ms "machine" Toml.asText?
    machinesDir := ← Toml.optional? ms "machines_dir" Toml.asPath?
    defaultBuild := ← Toml.withDefault? ms "build" build? .none }

/-- The settings in a file. -/
def load (t : FileTree) (path : Path) : Except Failure Settings :=
  match t.readText path with
  | .error cause => .error (.unreadableSettings path cause)
  | .ok text =>
      match (Toml.read? text).bind ofMembers? with
      | .none => .error (.malformedSettings path)
      | some s => .ok { s with machinesDir := s.machinesDir.map (rebased path) }

/-- The settings in a file that may be missing or useless. -/
def loadIfUsable {ε σ : Type} (t : FileTree) (path : Path) : Action ε σ Settings :=
  if t.present path then
    match load t path with
    | .ok s => Action.pure s
    | .error e => do
        Action.note .warning ("Failed to load config from " ++ path.text ++ ": " ++ e.message)
        return none
  else Action.pure none

/-- The settings of a user, if there are any, below those of a project. -/
def loadLayers {ε σ : Type} (t : FileTree) (user : Option Path) (project : Path) :
    Action ε σ Settings := do
  let below ←
    match user with
    | some path => loadIfUsable t path
    | .none => Action.pure none
  let above ← loadIfUsable t project
  return below.overlay above

/-- The directory of settings below another directory. -/
def directoryName : String := ".hostconf"

/-- The settings file below a directory. -/
def fileBelow (directory : Path) : Path :=
  (directory.child directoryName).child "config.toml"

/-- The settings file of the user. -/
def userFile? (env : Environment) : Option Path :=
  (env.nonEmpty? "HOME").map (fun home => fileBelow ⟨home⟩)

/-- The build for a request that gives none, if one is set. -/
def build? (s : Settings) : Option (Except Build.InvalidWord Build) :=
  s.defaultBuild.map Build.ofText

end Settings

end HostLink
