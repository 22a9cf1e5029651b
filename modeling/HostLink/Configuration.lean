import HostLink.Build.Compact
import HostLink.Machine
import HostLink.Profile.Document
import HostLink.Resolution.Dealii
import HostLink.Text.Quoted

namespace HostLink

/-!
The configuration of a build for a machine.  It is worked out in a fixed order, because a
linker wants a library before those on which it depends: PETSc or Deal.II come first, then
the other libraries of the machine, then BLAS and LAPACK, and the loader library last.

The hooks of the machine run at fixed points, and what they do to files, profile or build is
seen by everything after them.
-/

/-- What a build needs to know about its host. -/
structure Configuration where
  machine : String
  build : String
  petscRelease : Option PetscRelease
  line : LinkLine
  tools : Tools
  symbols : List String
  compileFlags : String
  linkFlags : String

namespace Configuration

/-- The arguments of a compiler: symbols, search paths, and the flags of the machine. -/
def compileArguments (c : Configuration) : List String :=
  c.symbols.map ("-D" ++ ·) ++ c.line.compileFlags ++ Text.words c.compileFlags

/-- The arguments of a linker: search paths, libraries, and the flags of the machine. -/
def linkArguments (c : Configuration) : List String :=
  c.line.linkFlags ++ Text.words c.linkFlags

end Configuration

namespace Configure

/-- The settings of a run that do not come from the machine. -/
structure Options where
  root : Path
  /-- Whether PETSc is left to the compiler commands of the platform. -/
  skipPetsc : Bool

/-- The release of PETSc for a build that asks for none. -/
def usualPetsc : String := "3.1"

def intelComponent : String := "Intel compilers"

/-- The state of a run as its caller sees it. -/
structure Session where
  tree : FileTree
  build : Build

/-- The state of a run: files, the build, and the resolution. -/
structure Progress where
  tree : FileTree
  build : Build
  context : Context

/-- A step of a run. -/
abbrev Step := Action Misconfiguration Progress

/-- A step on the files and the profile. -/
def adjusting (x : Adjustment Unit) : Step Unit :=
  Action.onPart (fun s => ⟨s.tree, s.context.profile⟩)
    (fun h s => { s with tree := h.tree, context := { s.context with profile := h.profile } }) x

/-- A step on the resolution. -/
def resolving {α : Type} (x : FileTree → Build → Action Misconfiguration Context α) : Step α :=
  fun s => Action.onPart Progress.context (fun c s => { s with context := c }) (x s.tree s.build) s

/-- Changes the resolution. -/
def updateContext (f : Context → Context) : Step Unit :=
  Action.update (fun s => { s with context := f s.context })

/-- Changes the build. -/
def updateBuild (f : Build → Build) : Step Unit :=
  Action.update (fun s => { s with build := f s.build })

/-- Fails, naming a component, unless a path denotes something. -/
def require (path : Path) (component : String) : Step Unit := do
  let s ← Action.state
  Action.ofExcept (s.tree.require path component)

/-- The hook that runs first. -/
def runConfigureHook (m : Machine) (preferences : Preferences) (root : Path) : Step Unit := do
  match m.onConfigure with
  | none => Action.pure ()
  | some hook => do
      let s ← Action.state
      adjusting (hook preferences s.build root)

/-- Applies the versions asked for, if there are any. -/
def applyPreferences (m : Machine) (preferences : Preferences) (root : Path) : Step Unit :=
  if preferences.isEmpty then Action.pure ()
  else
    match m.onPreferences with
    | some hook => adjusting (hook preferences root)
    | none =>
        if m.handlesPreferences then Action.pure ()
        else Action.fail (.unsupportedPreferences m.id preferences.shown)

/-- The release of PETSc that is asked for. -/
def requestedPetsc (preferences : Preferences) : String :=
  ((preferences.find? "petsc").map (Text.leading 3)).getD usualPetsc

/-- Deal.II with the libraries of the machine.  Deal.II brings BLAS and LAPACK along. -/
def resolveDealii : Step (Option PetscRelease) := do
  resolving Dealii.resolve
  updateContext (fun c => (c.addLibraries c.profile.libraries).addLibraries ["blas", "lapack"])
  return none

/-- PETSc with the libraries of the machine, some of which may need BLAS and LAPACK. -/
def resolvePetsc (m : Machine) (preferences : Preferences) (root : Path) :
    Step (Option PetscRelease) := do
  applyPreferences m preferences root
  let release ← resolving (fun t b => Petsc.resolve t (requestedPetsc preferences) b.flavour false)
  let s ← Action.state
  updateContext (fun c =>
    (c.addLibraries c.profile.libraries).addLibraries
      (c.profile.blasLapackFor s.build.production))
  return release

/-- The installation of the Intel compilers, for a build that uses them, with its libraries
added. -/
def useIntelLibraries : Step (Option Path) := do
  let s ← Action.state
  match s.build.compiler with
  | .gcc => return none
  | .intel =>
      match s.context.profile.intel with
      | none => Action.fail (.notConfigured intelComponent)
      | some path => do
          let base := s.context.absolute path
          require base intelComponent
          let lib := base.child "lib"
          require lib intelComponent
          updateContext (fun c => c.addLibPaths [lib])
          return some base

/-- Adds the paths of the machine and the loader library. -/
def addMachinePaths : Step Unit :=
  updateContext (fun c =>
    ((c.addIncludes c.profile.includePaths).addLibPaths
      (c.profile.libPaths.map c.absolute)).addLibraries ["dl"])

/-- The command of a parallel compiler that runs another Intel compiler. -/
def wrapping (icpc : String) (tools : Tools) : Tools :=
  tools.insert "mpicxx" ((tools.find? "mpicxx").getD "" ++ " -CC=\"" ++ icpc ++ "\"")

/-- Uses the commands of the Intel compilers. -/
def useIntelTools (base : Path) : Step Unit := do
  let s ← Action.state
  match s.context.profile.icpc with
  | some icpc => updateBuild (fun b => { b with tools := wrapping icpc b.tools })
  | none => Action.pure ()
  let bin := base.child "bin"
  require bin intelComponent
  updateBuild (fun b =>
    { b with
      tools :=
        (b.tools.insert "cxx" (bin.child "icpc").text).insert "ar" (bin.child "xiar").text })

/-- Completes the tools of the build. -/
def completeTools (intel : Option Path) : Step Unit := do
  let s ← Action.state
  updateBuild (fun b => { b with tools := b.tools.overlay s.context.profile.tools })
  match intel with
  | some base => useIntelTools base
  | none => Action.pure ()

/-- The hook that runs last. -/
def runBuildHook (m : Machine) : Step Unit :=
  match m.onModifyBuild with
  | none => Action.pure ()
  | some hook => Action.onPart Progress.build (fun b s => { s with build := b }) hook

/-- What was found, as a configuration. -/
def conclude (m : Machine) (release : Option PetscRelease) : Step Configuration := do
  let s ← Action.state
  let symbols ← s.context.profile.symbols
  return {
    machine := m.id
    build := s.build.text
    petscRelease := release
    line := s.context.line
    tools := s.build.tools
    symbols := symbols
    compileFlags := s.context.profile.compileFlags
    linkFlags := s.context.profile.linkFlags }

/-- The lines that describe a finished configuration in full. -/
def traceLines (c : Configuration) (p : Profile) (b : Build) : List String :=
  ["using host configuration `" ++ c.machine ++ "`"] ++
    ((Text.lines (p.document .compact)).filter (· ≠ "")).map ("  " ++ ·) ++
    ["libraries: " ++ Text.quotedList c.line.libraries,
      "library paths: " ++ Text.quotedList (c.line.libPaths.map Path.text),
      "include paths: " ++ Text.quotedList (c.line.includePaths.map Path.text),
      "build: " ++ b.text,
      "variant: " ++ b.flavour.name] ++
    b.tools.entries.map (fun x => "tool " ++ x.1 ++ " = " ++ x.2)

/-- Notes a finished configuration in full, for a build that wants it. -/
def trace (c : Configuration) : Step Unit := do
  let s ← Action.state
  if s.build.debug then
    Action.forEach (fun line => Action.note .debug line)
      (traceLines c s.context.profile s.build)

/-- All steps of a run. -/
def steps (m : Machine) (options : Options) : Step Configuration := do
  let s ← Action.state
  let preferences := s.build.preferences
  Action.note .debug ("configuring " ++ s.build.text ++ " for machine `" ++ m.id ++ "`")
  runConfigureHook m preferences options.root
  let release ←
    if s.build.usingDealii then resolveDealii
    else resolvePetsc m preferences options.root
  let intel ← useIntelLibraries
  addMachinePaths
  completeTools intel
  runBuildHook m
  let c ← conclude m release
  trace c
  return c

end Configure

/-- Configures a build for a machine.  The build that is left has the tools of the
configuration; after a failure it has what it had got until then. -/
def configure (m : Machine) (options : Configure.Options) :
    Action Misconfiguration Configure.Session Configuration :=
  Action.onPart
    (fun s => ⟨s.tree, s.build, Context.start m.profile options.root options.skipPetsc⟩)
    (fun p _ => ⟨p.tree, p.build⟩)
    (Configure.steps m options)

end HostLink
