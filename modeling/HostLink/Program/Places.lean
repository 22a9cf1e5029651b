import HostLink.Program

namespace HostLink
namespace Program

/-!
The places at which a run looks.  They depend on files that are at such places themselves:
settings say where machine files are, and a machine file says where libraries are installed.
So the places are worked out from the files that are known so far, and again when more of
them are known; after a few rounds nothing new is named.
-/

/-- What a run wants to know about a place. -/
inductive Look where
  /-- Whether a file or a directory is there. -/
  | kind
  | content
  /-- What a directory holds. -/
  | names
  /-- Whether a program is there. -/
  | program
  deriving DecidableEq

/-- A place and what is looked at. -/
structure Place where
  path : Path
  look : Look

namespace Place

/-- Places below a directory, each given by the names on the way. -/
def below (base : Path) (look : Look) (ways : List (List String)) : List Place :=
  ways.map (fun way => ⟨way.foldl Path.child base, look⟩)

/-- The files that tell what the host is. -/
def ofHost : List Place :=
  ["/etc/hostname", "/proc/sys/kernel/hostname", "/etc/issue"].map
    (fun path => ⟨⟨path⟩, .content⟩)

/-- The files of settings. -/
def ofSettings (env : Environment) (p : Project) : List Place :=
  ((Settings.userFile? env).toList ++ [Settings.fileBelow p.root]).map
    (fun path => ⟨path, .content⟩)

/-- The machine files. -/
def ofMachineFiles (t : FileTree) (p : Project) : List Place :=
  let files := (Catalogue.machineFiles t p.machinesDir).toOption.getD []
  ⟨p.machinesDir, .names⟩ :: files.map (fun path => ⟨path, .content⟩)

/-- The parts of an installation of PETSc under one name of its builds. -/
def ofPetscBuild (base : Path) (arch : String) : List Place :=
  below base .kind
    [[arch, "include"], [arch, "lib"], ["lib", arch], ["lib", "libO_c++", arch],
      ["lib", "libg_c++", arch], [arch, "bin", "mpicxx"], [arch, "bin", "mpirun"]]

/-- The installations that a profile names. -/
def ofProfile (root : Path) (p : Profile) : List Place :=
  let absolute := Path.absolute root
  let archs :=
    p.arch :: ([p.archOptimised, p.archProfiling, p.archProduction].filterMap id)
  let petsc :=
    ([p.petsc22, p.petsc23, p.petsc30, p.petsc31].filterMap id).flatMap (fun path =>
      below (absolute path) .kind [["include"]] ++
        archs.flatMap (ofPetscBuild (absolute path)))
  let dealii :=
    p.dealii.toList.flatMap (fun path => below (absolute path) .content [["Version"]])
  let intel :=
    p.intel.toList.flatMap (fun path =>
      below (absolute path) .kind [["lib"], ["bin", "icpc"], ["bin", "xiar"]])
  petsc ++ dealii ++ intel

/-- The installation of a library that can be relocated. -/
def ofRelocation (root : Path) (x : Relocatable × Path) : List Place :=
  let base := Path.absolute root x.2
  match x.1 with
  | .boost _ => [⟨base, .kind⟩, ⟨base.child "lib", .names⟩]
  | .xsd => ⟨base, .kind⟩ :: below base .kind [["bin", "xsd"]]
  | _ => [⟨base, .kind⟩]

/-- Everything below which SUNDIALS has its headers. -/
def ofSundials (headers : Path) : List Place :=
  [⟨Sundials.headerPath headers, .content⟩]

/-- The installations that a machine file names besides those of its profile. -/
def ofDescription (root : Path) (d : MachineDescription) : List Place :=
  let versions :=
    d.versions.entries.flatMap (fun x =>
      x.2.entries.filterMap (fun y =>
        (Relocatable.ofName? x.1 y.1).map (fun library => (library, y.2))))
  (d.places.relocations ++ versions).flatMap (ofRelocation root) ++
    d.places.cvode.toList.flatMap (fun path =>
      ofSundials ((Path.absolute root path).child "include"))

/-- The files that may be the program of a command. -/
def ofCommand (env : Environment) (command : String) : List Place :=
  match Text.firstWord? command with
  | none => []
  | some program =>
      ⟨⟨program⟩, .kind⟩ ::
        (ToolPath.directories env).map (fun directory => ⟨directory.child program, .program⟩)

/-- The places that matter for a machine. -/
def ofMachine (t : FileTree) (env : Environment) (root : Path) (m : Machine) : List Place :=
  let description :=
    match m.source with
    | .builtIn => none
    | .file path => (MachineDescription.load t path).toOption
  let tools := Build.usualTools.values ++ m.profile.tools.values
  ofProfile root m.profile ++
    description.toList.flatMap (ofDescription root) ++
    tools.flatMap (ofCommand env)

/-- The place that matters for a command besides those of the machine. -/
def ofOperand (root : Path) : Command → List Place
  | .cvodeVersion includePath => ofSundials (Path.absolute root includePath)
  | _ => []

end Place

/-- The places at which a run looks, as far as the files that are known tell. -/
def places (t : FileTree) (env : Environment) (words : List String) : List Place :=
  match CommandLine.demand words with
  | .ok (.run call) =>
      let looked : Action Failure Unit (List Place) := do
        let p ← project t env call.options
        let early := Place.ofHost ++ Place.ofSettings env p ++ Place.ofMachineFiles t p
        match ← Action.attempt (p.selectMachine t env none) with
        | .ok m =>
            return early ++ Place.ofMachine t env p.root m ++
              Place.ofOperand p.root call.command
        | .error (_ : Failure) => return early
      ((looked ()).result.toOption).getD []
  | _ => []

/-- How often the places have to be worked out: settings name the directory of machine files,
that directory names the files, and a file names everything else. -/
def rounds : Nat := 4

/-- The variables on which a run depends. -/
def variablesRead : List String :=
  ["HOME", "HOSTNAME", "PATH", "PETSC_DIR", "PETSC_ARCH", Project.platformVariable,
    machineVariable]

end Program
end HostLink
