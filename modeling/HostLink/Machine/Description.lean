import HostLink.Failure
import HostLink.Machine
import HostLink.Profile.Document

namespace HostLink

/-!
Machines described by files.  Such a file is the document of a profile with three more keys:
what the machine is, where libraries lie that are not in the usual places, and which other
versions of libraries can be switched to.  The last two become hooks of the machine.
-/

/-- A place of Boost, which needs its version to find the headers. -/
structure BoostPlace where
  path : Path
  version : String
  deriving DecidableEq

/-- Libraries that do not lie in the usual places. -/
structure Places where
  boost : Option BoostPlace
  hdf5 : Option Path
  xerces : Option Path
  parmetis : Option Path
  xsd : Option Path
  /-- Where SUNDIALS is installed; a place for it also switches CVODE on. -/
  cvode : Option Path
  deriving DecidableEq

namespace Places

def none : Places where
  boost := .none
  hdf5 := .none
  xerces := .none
  parmetis := .none
  xsd := .none
  cvode := .none

def isEmpty (p : Places) : Bool :=
  p == none

/-- The libraries that can be relocated, with their places, in the order in which they are
relocated. -/
def relocations (p : Places) : List (Relocatable × Path) :=
  (p.boost.map (fun b => (.boost b.version, b.path))).toList ++
    (p.hdf5.map (fun path => (.hdf5, path))).toList ++
    (p.xerces.map (fun path => (.xerces, path))).toList ++
    (p.parmetis.map (fun path => (.parmetis, path))).toList ++
    (p.xsd.map (fun path => (.xsd, path))).toList

def cvodeLibraries : List String :=
  ["sundials_cvode", "sundials_nvecserial"]

/-- Adds a library unless it is there. -/
def addMissing (p : Profile) (library : String) : Profile :=
  p.addLibrariesOnce library [library]

/-- Uses CVODE from a place: its version, its paths and its libraries. -/
def useCvode (root place : Path) : Adjustment Unit := do
  Host.require root place "CVODE"
  let base := Path.absolute root place
  let headers := base.child "include"
  let _ ← Host.findCvode root headers
  Host.adjust (fun p =>
    (cvodeLibraries.foldl addMissing ((p.addInclude headers).addLibPath (base.child "lib"))).switch
      .cvode true)

/-- Uses every library from its place. -/
def use (p : Places) (root : Path) : Adjustment Unit := do
  Action.forEach (fun x => Host.relocate root x.1 x.2) p.relocations
  match p.cvode with
  | some place => useCvode root place
  | .none => Action.pure ()

end Places

/-- Places of libraries, by library and version. -/
abbrev VersionTable := OrderedMap String (OrderedMap String Path)

namespace VersionTable

/-- The library to relocate, and where to, for a version that is asked for. -/
def find? (table : VersionTable) (library version : String) : Option (Relocatable × Path) := do
  let relocatable ← Relocatable.ofName? library version
  let versions ← OrderedMap.find? table library
  let path ← versions.find? version
  return (relocatable, path)

/-- Switches to the versions that are asked for, one after another, and gives those that the
table does not have. -/
def switchAll (table : VersionTable) (root : Path) :
    List (String × String) → Adjustment (List String)
  | [] => Action.pure []
  | (library, version) :: rest =>
      match table.find? library version with
      | some (relocatable, path) => do
          Action.note .debug
            ("using " ++ library ++ " " ++ version ++ " from " ++ path.text)
          Host.relocate root relocatable path
          switchAll table root rest
      | none => do
          let others ← switchAll table root rest
          return (library ++ "=" ++ version) :: others

/-- Switches to the versions that are asked for; those that the table does not have are an
error, after all others have been switched to. -/
def switch (table : VersionTable) (machine : String) (preferences : Preferences) (root : Path) :
    Adjustment Unit := do
  let unsupported ← table.switchAll root preferences.withoutPetsc.entries
  match unsupported with
  | [] => Action.pure ()
  | _ => Action.fail (.unsupportedPreferences machine unsupported)

end VersionTable

/-- What a machine file says. -/
structure MachineDescription where
  summary : Option String
  places : Places
  versions : VersionTable
  profile : Profile

namespace MachineDescription

open Toml (Members Value)

def boostPlaceOf? (v : Value) : Option BoostPlace := do
  let ms ← Toml.asRecord? ["path", "version"] v
  let path ← Toml.optional? ms "path" Toml.asPath?
  let version ← Toml.optional? ms "version" Toml.asText?
  return { path := ← path, version := ← version }

def placesOf? (v : Value) : Option Places := do
  let ms ← Toml.asRecord? ["boost", "hdf5", "xerces", "parmetis", "xsd", "cvode"] v
  return {
    boost := ← Toml.optional? ms "boost" boostPlaceOf?
    hdf5 := ← Toml.optional? ms "hdf5" Toml.asPath?
    xerces := ← Toml.optional? ms "xerces" Toml.asPath?
    parmetis := ← Toml.optional? ms "parmetis" Toml.asPath?
    xsd := ← Toml.optional? ms "xsd" Toml.asPath?
    cvode := ← Toml.optional? ms "cvode" Toml.asPath? }

def ofMembers? (ms : Members) : Option MachineDescription := do
  return {
    summary := ← Toml.optional? ms "description" Toml.asText?
    places := ← Toml.withDefault? ms "locations" placesOf? Places.none
    versions :=
      ← Toml.withDefault? ms "versions" (Toml.asMap? (Toml.asMap? Toml.asPath?)) OrderedMap.empty
    profile := ← Profile.ofMembers? ms }

/-- The description that a text gives, if it is a well-formed one. -/
def ofText? (text : String) : Option MachineDescription :=
  (Toml.read? text).bind ofMembers?

/-- The description in a file. -/
def load (t : FileTree) (path : Path) : Except Failure MachineDescription := do
  let text ← t.textOf path
  match ofText? text with
  | some d => .ok d
  | none => .error (.malformedFile path)

/-- The machine that is described. -/
def toMachine (d : MachineDescription) (id : String) (source : MachineSource) : Machine where
  id := id
  source := source
  profile := d.profile
  onConfigure := if d.places.isEmpty then none else some (fun _ _ root => d.places.use root)
  onPreferences :=
    if d.versions.isEmpty then none
    else some (fun preferences root => d.versions.switch id preferences root)
  onModifyBuild := none

end MachineDescription

end HostLink
