import HostLink.Configuration
import HostLink.Machine.Catalogue
import HostLink.Settings
import HostLink.ToolPath

namespace HostLink

/-!
A project whose builds are configured: its root directory and its settings.  A request says
what is wanted of a build and perhaps which machine is meant; what it leaves open is taken
from the settings.
-/

/-- A project. -/
structure Project where
  /-- The directory from which the paths of a machine are taken. -/
  root : Path
  settings : Settings
  deriving DecidableEq

/-- What is asked for.  Flags add to the build that is given and take nothing away. -/
structure Request where
  /-- A build word. -/
  build : Option String
  compiler : Option Compiler
  optimised : Bool
  profiling : Bool
  production : Bool
  dealii : Bool
  dealiiDebugging : Bool
  debug : Bool
  /-- Libraries and the versions asked for, in order. -/
  preferences : List (String × String)
  machine : Option String

namespace Request

/-- A request that asks for nothing. -/
def plain : Request where
  build := none
  compiler := none
  optimised := false
  profiling := false
  production := false
  dealii := false
  dealiiDebugging := false
  debug := false
  preferences := []
  machine := none

/-- A library and a version, written with `=` between them; neither may be empty. -/
def preferenceOf (text : String) : Except String (String × String) :=
  match Text.cut? '=' text with
  | some (library, version) =>
      if library = "" ∨ version = "" then
        .error ("expected `library=version`, got `" ++ text ++ "`")
      else .ok (library, version)
  | none => .error ("expected `library=version`, got `" ++ text ++ "`")

/-- The build to which the flags are added. -/
def baseBuild (r : Request) (s : Settings) : Except Failure Build :=
  match r.build with
  | some word =>
      match Build.ofText word with
      | .ok b => .ok b
      | .error e => .error (.invalidBuild e)
  | none =>
      match s.build? with
      | some (.ok b) => .ok b
      | some (.error e) => .error (.invalidDefaultBuild e)
      | none => .ok Build.plain

/-- A build with what a request adds to it. -/
def addTo (r : Request) (b : Build) : Build :=
  { b with
    compiler := r.compiler.getD b.compiler
    optimised := b.optimised || r.optimised || r.production
    profiling := b.profiling || r.profiling
    production := b.production || r.production
    usingDealii := b.usingDealii || r.dealii || r.dealiiDebugging
    dealiiDebugging := b.dealiiDebugging || r.dealiiDebugging
    debug := b.debug || r.debug
    preferences := b.preferences.insertAll r.preferences }

/-- The build that is asked for. -/
def toBuild (r : Request) (s : Settings) : Except Failure Build :=
  (r.baseBuild s).map r.addTo

end Request

namespace Project

/-- A project with the settings of its root and of the user. -/
def atRoot {ε σ : Type} (t : FileTree) (env : Environment) (root : Path) : Action ε σ Project := do
  let settings ← Settings.loadLayers t (Settings.userFile? env) (Settings.fileBelow root)
  return ⟨root, settings⟩

/-- The project of a root directory, which is the working directory if none is given. -/
def ofRoot? {ε σ : Type} (t : FileTree) (env : Environment) (root : Option Path) :
    Action ε σ Project :=
  let work := ToolPath.workPath t
  match root with
  | some root => atRoot t env (Path.absolute work root)
  | none => atRoot t env work

/-- The directory of the project for settings and machine files. -/
def directory (p : Project) : Path :=
  p.root.child Settings.directoryName

/-- Where the machine files of the project are. -/
def machinesDir (p : Project) : Path :=
  match p.settings.machinesDir with
  | some directory => Path.absolute p.root directory
  | none => p.directory.child "machines"

/-- The machine to use: the one that is asked for, or that of the settings, or that of the
host. -/
def selectMachine {σ : Type} (p : Project) (t : FileTree) (env : Environment)
    (wanted : Option String) : Action Failure σ Machine := do
  let host ← HostIdentity.detect t env
  Catalogue.usual.select t env
    { wanted := wanted.or p.settings.machine
      directory := some p.machinesDir
      host := host }

/-- The variable that is set when PETSc comes with the compiler commands of a platform. -/
def platformVariable : String := "XTPE_COMPILE_TARGET"

/-- The options of a run in an environment. -/
def options {ε σ : Type} (p : Project) (env : Environment) : Action ε σ Configure.Options := do
  let skip := (env.nonEmpty? platformVariable).isSome
  if skip then
    Action.note .info (platformVariable ++ " is set; PETSc comes from the compiler wrappers")
  return ⟨p.root, skip⟩

/-- Configures a build as it is asked for.  The build that results has the tools of the
configuration. -/
def configure (p : Project) (env : Environment) (r : Request) :
    Action Failure FileTree (Build × Configuration) := do
  let t ← Action.state
  let m ← p.selectMachine t env r.machine
  Action.note .info ("using machine `" ++ m.id ++ "` (" ++ m.source.text ++ ")")
  let b ← Action.ofExcept (r.toBuild p.settings)
  let options ← p.options env
  fun t =>
    match HostLink.configure m options ⟨t, b⟩ with
    | ⟨.ok c, s, notes⟩ => ⟨.ok (s.build, c), s.tree, notes⟩
    | ⟨.error e, s, notes⟩ => ⟨.error (.misconfigured e), s.tree, notes⟩

/-- The machines of a project, the host, and the machine that would be used. -/
structure Listing where
  machines : List MachineSummary
  host : HostIdentity
  selected : String

def listing {σ : Type} (p : Project) (t : FileTree) (env : Environment) :
    Action Failure σ Listing := do
  let machines ← Catalogue.usual.list t (some p.machinesDir)
  let selected ← p.selectMachine t env none
  let host ← HostIdentity.detect t env
  return ⟨machines, host, selected.id⟩

namespace Listing

def text (l : Listing) : String :=
  Catalogue.rendered l.machines l.selected

end Listing

end Project

end HostLink
