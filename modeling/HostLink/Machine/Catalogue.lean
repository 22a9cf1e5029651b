import HostLink.HostIdentity
import HostLink.Machine.BuiltIn
import HostLink.Machine.Description

namespace HostLink

/-!
The machines there are, and the choice of one.  A machine can be built in or come from a file
`<id>.toml` in the directory of machine files; a file takes the place of a built-in machine
of the same name.

A machine that is asked for by name is the one that is used.  Without a name, the machine
file of the host is taken, then the machine of its distribution, and then the one that fits
everywhere.
-/

/-- A built-in machine: what it is, and how it is made in an environment. -/
structure CatalogueEntry where
  summary : String
  make : Environment → Machine

/-- The built-in machines by name. -/
structure Catalogue where
  entries : OrderedMap String CatalogueEntry

/-- A machine in a list. -/
structure MachineSummary where
  id : String
  summary : String
  source : MachineSource
  deriving DecidableEq

/-- What a choice of a machine depends on. -/
structure MachineChoice where
  /-- The name that is asked for. -/
  wanted : Option String
  /-- Where machine files are. -/
  directory : Option Path
  host : HostIdentity

namespace Catalogue

def empty : Catalogue where
  entries := OrderedMap.empty

/-- Adds a machine, in the place of one of the same name. -/
def register (c : Catalogue) (id summary : String) (make : Environment → Machine) : Catalogue where
  entries := c.entries.insert id ⟨summary, make⟩

def fallbackId : String := "default"

/-- The catalogue of the built-in machines. -/
def usual : Catalogue :=
  ((empty.register fallbackId
        "PETSc from $PETSC_DIR/$PETSC_ARCH, other libraries from system paths"
        Machine.generic).register
      "ubuntu" "Ubuntu distribution packages" (fun _ => Machine.ubuntu)).register
    "debian" "Debian distribution packages" (fun _ => Machine.debian)

def contains (c : Catalogue) (id : String) : Bool :=
  c.entries.contains id

/-- The built-in machine of a name. -/
def find? (c : Catalogue) (env : Environment) (id : String) : Option Machine :=
  (c.entries.find? id).map (fun entry => entry.make env)

/-- The machine that fits everywhere, also if none is registered for that. -/
def fallback (c : Catalogue) (env : Environment) : Machine :=
  (c.find? env fallbackId).getD (Machine.generic env)

/-- The machine file of a name. -/
def fileOf (directory : Path) (id : String) : Path :=
  directory.child (id ++ ".toml")

/-- The machine file of a name, if there is such a file. -/
def existingFile? (t : FileTree) (directory : Option Path) (id : String) : Option Path :=
  (directory.map (fun d => fileOf d id)).filter t.isFile

/-- The machine that a file describes. -/
def loadMachine (t : FileTree) (path : Path) (id : String) : Except Failure Machine := do
  let d ← MachineDescription.load t path
  return d.toMachine id (.file path)

/-- The machine of a name: from its file, or else a built-in one. -/
def lookup {σ : Type} (c : Catalogue) (t : FileTree) (env : Environment) (id : String)
    (directory : Option Path) : Action Failure σ (Option Machine) := do
  match existingFile? t directory id with
  | some path => do
      Action.note .debug ("loading machine file " ++ path.text)
      let m ← Action.ofExcept (loadMachine t path id)
      return some m
  | none => return c.find? env id

/-- The machine for a host of which no machine was asked for. -/
def selectForHost {σ : Type} (c : Catalogue) (t : FileTree) (env : Environment)
    (choice : MachineChoice) : Action Failure σ Machine := do
  let own := choice.host.hostname.bind (fun name =>
    (existingFile? t choice.directory name).map (fun path => (name, path)))
  match own with
  | some (name, path) => do
      Action.note .debug ("using machine file for host `" ++ name ++ "`")
      Action.ofExcept (loadMachine t path name)
  | none =>
      match choice.host.distribution with
      | none => return c.fallback env
      | some distribution => do
          match ← c.lookup t env distribution choice.directory with
          | some m => do
              Action.note .debug
                ("using configuration for distribution `" ++ distribution ++ "`")
              return m
          | none => return c.fallback env

/-- The machine that is used. -/
def select {σ : Type} (c : Catalogue) (t : FileTree) (env : Environment)
    (choice : MachineChoice) : Action Failure σ Machine := do
  match choice.wanted with
  | none => c.selectForHost t env choice
  | some id => do
      match ← c.lookup t env id choice.directory with
      | some m => return m
      | none => do
          Action.note .warning
            ("unknown machine `" ++ id ++ "`, using `" ++ fallbackId ++ "` instead")
          return c.fallback env

/-- The machine files in a directory. -/
def machineFiles (t : FileTree) (directory : Path) : Except Failure (List Path) :=
  if t.isDirectory directory then
    match Glob.paths t (directory.child "*.toml").text with
    | .ok found => .ok found
    | .error e => .error (.invalidPattern e)
  else .ok []

/-- Adds the machines of files to a list of machines.  A file that cannot be used is noted. -/
def addFiles {σ : Type} (t : FileTree) :
    List Path → OrderedMap String MachineSummary →
      Action Failure σ (OrderedMap String MachineSummary)
  | [], found => Action.pure found
  | path :: rest, found =>
      match path.fileName?.map Path.stemOf with
      | none => addFiles t rest found
      | some id =>
          match MachineDescription.load t path with
          | .ok d =>
              addFiles t rest (found.insert id ⟨id, d.summary.getD "", .file path⟩)
          | .error e => do
              Action.note .warning ("skipping " ++ path.text ++ ": " ++ e.message)
              addFiles t rest found

/-- The built-in machines as a list. -/
def summaries (c : Catalogue) : OrderedMap String MachineSummary :=
  OrderedMap.ofList
    (c.entries.entries.map (fun x => (x.1, ⟨x.1, x.2.summary, .builtIn⟩)))

/-- All machines, in the order of their names. -/
def list {σ : Type} (c : Catalogue) (t : FileTree) (directory : Option Path) :
    Action Failure σ (List MachineSummary) := do
  match directory with
  | none => return c.summaries.values
  | some d => do
      let files ← Action.ofExcept (machineFiles t d)
      let all ← addFiles t files c.summaries
      return all.values

/-- A list of machines as text, one to a line, with a mark at the selected one. -/
def rendered (machines : List MachineSummary) (selected : String) : String :=
  let width := (machines.map (fun m => m.id.utf8ByteSize)).foldl max 0
  String.join
    (machines.map (fun m =>
      (if m.id = selected then "* " else "  ") ++ m.id ++
        String.ofList (List.replicate (width - m.id.length) ' ') ++ "  " ++ m.summary ++
        " [" ++ m.source.text ++ "]\n"))

end Catalogue

end HostLink
