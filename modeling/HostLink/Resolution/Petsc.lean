import HostLink.Misconfiguration
import HostLink.Resolution.Context

namespace HostLink
namespace Petsc

/-!
Headers and libraries of PETSc.  Where they lie depends on the release:

* 2.2 has headers in `bmake/<arch>` and libraries in `lib/libO_c++/<arch>` or
  `lib/libg_c++/<arch>`, one of them optimised and the other for debugging;
* 2.3 has headers in `bmake/<arch>` and libraries in `lib/<arch>`;
* 3.0 and 3.1 have headers in `<arch>/include` and libraries in `<arch>/lib`.

Every release has further headers in `include`.  The release is chosen first, as the newest
one that is installed and not newer than the requested one; the name of its build is chosen
next; and only then is it checked that all directories are there, so an incomplete
installation is an error and no reason to try another one.
-/

def component : String := "PETSc"

/-- The libraries of a release before 3.1, which split PETSc into parts. -/
def splitLibraries : List String :=
  ["petscts", "petscsnes", "petscksp", "petscdm", "petscmat", "petscvec", "petsc"]

/-- The libraries of a release. -/
def libraries : PetscRelease → List String
  | .v3_1 => ["petsc"]
  | _ => splitLibraries

/-- Where an installation keeps the parts that differ between releases. -/
structure Layout where
  archHeaders : Path
  libPath : Path
  /-- The directory with the commands that the installation brings along. -/
  commands : Option Path
  deriving DecidableEq

/-- The name of a build whose library directory is there; if there is none, the last name,
so that the missing directory of that build is reported. -/
def chooseArch (t : FileTree) (names : List String) (libPath : String → Path) : String :=
  ((names.find? (fun name => t.isDirectory (libPath name))).or names.getLast?).getD ""

/-- The two library directories of release 2.2, the one that suits the flavour first. -/
def libDirs22 (flavour : Flavour) : List String :=
  match flavour with
  | .optimised => ["libO_c++", "libg_c++"]
  | .production => ["libO_c++", "libg_c++"]
  | _ => ["libg_c++", "libO_c++"]

/-- The layout of a release that is installed below a directory. -/
def layout (t : FileTree) (p : Profile) (flavour : Flavour) (release : PetscRelease)
    (base : Path) : Except Misconfiguration Layout :=
  let lib := base.child "lib"
  let bmake := base.child "bmake"
  match release with
  | .v2_2 =>
      let candidates := (libDirs22 flavour).map (fun dir => (lib.child dir).child p.arch)
      match candidates.find? t.present with
      | some libPath =>
          .ok { archHeaders := bmake.child p.arch, libPath := libPath, commands := none }
      | none => .error (.directoryNotFound "PETSc 2.2" "libraries" lib)
  | .v2_3 =>
      let arch := chooseArch t (p.archNames flavour) lib.child
      .ok { archHeaders := bmake.child arch, libPath := lib.child arch, commands := none }
  | _ =>
      let arch :=
        chooseArch t (p.archNames flavour) (fun name => (base.child name).child "lib")
      let dir := base.child arch
      .ok
        { archHeaders := dir.child "include"
          libPath := dir.child "lib"
          commands := some (dir.child "bin") }

/-- Uses the commands for parallel programs that an installation brings along. -/
def useCommands (t : FileTree) (commands : Path) : Action Misconfiguration Context Unit :=
  Action.forEach
    (fun tool => do
      let path := commands.child tool
      if t.present path then do
        Action.note .debug ("using PETSc-bundled " ++ tool ++ ": " ++ path.text)
        Action.update (fun c => c.setTool tool path.text))
    ["mpicxx", "mpirun"]

/-- The release to use, and where it is installed. -/
def chooseRelease (t : FileTree) (requested : String) :
    Action Misconfiguration Context (PetscRelease × Path) := do
  match PetscRelease.ofVersion? requested with
  | none => Action.fail (.unknownVersion component requested)
  | some wanted =>
      let c ← Action.state
      let installation := fun r => (c.profile.petscPath r).map c.absolute
      match ← wanted.chain.installed t installation with
      | none =>
          Action.fail
            (.missingDependency component requested
              (wanted.chain.versions.map PetscRelease.name))
      | some (release, base) =>
          if release ≠ wanted then
            Action.note .info
              ("PETSc " ++ wanted.name ++ " not available, falling back to " ++ release.name)
          Action.note .debug ("using PETSc " ++ release.name ++ " from " ++ base.text)
          return (release, base)

/-- Adds the headers of PETSc and, unless only headers are asked for, its libraries.  The
result is the release, or nothing if PETSc is left to the platform. -/
def resolve (t : FileTree) (requested : String) (flavour : Flavour) (headersOnly : Bool) :
    Action Misconfiguration Context (Option PetscRelease) := do
  let c ← Action.state
  if c.skipPetsc then
    Action.note .info "PETSc supplied by the platform, skipping"
    return none
  let (release, base) ← chooseRelease t requested
  let found ← Action.ofExcept (layout t c.profile flavour release base)
  Action.update (fun c => c.addIncludes [found.archHeaders])
  match found.commands with
  | some commands => useCommands t commands
  | none => Action.pure ()
  let headers := base.child "include"
  if !t.isDirectory headers then
    Action.fail (.directoryNotFound component "headers" headers)
  Action.update (fun c => c.addIncludes [headers])
  if !headersOnly then
    if !t.isDirectory found.libPath then
      Action.fail (.directoryNotFound component "libraries" found.libPath)
    Action.update (fun c => (c.addLibPaths [found.libPath]).addLibraries (libraries release))
  return some release

end Petsc
end HostLink
