import HostLink.LinkLine
import HostLink.Profile
import HostLink.Relocation.Boost

namespace HostLink

/-!
Libraries that a machine keeps away from the usual places.  Relocating a library first drops
what the profile says about it, that is the paths that mention it and the paths below the
place to which it was relocated before, and then adds the paths of the new place.  So after
relocating a library twice only the second place is left.

A relocation of Boost can fail after it has dropped and added paths, when its version cannot
be read or no library file is found; what it did stays in the profile.
-/

/-- A library that can be relocated. -/
inductive Relocatable where
  /-- Boost, with a version such as `1.36` or `1.33.1`. -/
  | boost (version : String)
  | hdf5
  | xerces
  | parmetis
  /-- The XSD compiler and its headers. -/
  | xsd
  deriving DecidableEq

namespace Relocatable

/-- The name under which the place of a library is recorded. -/
def key : Relocatable → String
  | .boost _ => "boost"
  | .hdf5 => "hdf5"
  | .xerces => "xerces"
  | .parmetis => "parmetis"
  | .xsd => "xsd"

/-- The name of a library in messages. -/
def component : Relocatable → String
  | .boost _ => "Boost"
  | .hdf5 => "HDF5"
  | .xerces => "Xerces"
  | .parmetis => "ParMetis"
  | .xsd => "XSD"

/-- The text by which paths of a library are recognised. -/
def mention : Relocatable → String
  | .boost _ => "boost"
  | .hdf5 => "hdf5"
  | .xerces => "xerces"
  | .parmetis => "ParMetis"
  | .xsd => "libxsd"

/-- The library that a name and, for Boost, a version stand for. -/
def ofName? (name version : String) : Option Relocatable :=
  match name with
  | "boost" => some (.boost version)
  | "hdf5" => some .hdf5
  | "xerces" => some .xerces
  | "parmetis" => some .parmetis
  | "xsd" => some .xsd
  | _ => none

theorem ofName?_key (l : Relocatable) (version : String) :
    (ofName? l.key version).map key = some l.key := by
  cases l <;> rfl

end Relocatable

namespace Profile

/-- Records the place of a library and drops the paths below the place recorded before. -/
def recordPlace (p : Profile) (key : String) (base : Path) : Profile :=
  let recorded := { p with relocations := p.relocations.insert key base }
  match p.relocations.find? key with
  | none => recorded
  | some previous =>
      { recorded with
        includePaths := Path.outside previous p.includePaths
        libPaths := Path.outside previous p.libPaths }

@[simp]
theorem find?_recordPlace (p : Profile) (key : String) (base : Path) :
    (p.recordPlace key base).relocations.find? key = some base := by
  simp only [recordPlace]
  split <;> simp

/-- Drops the directories of headers that mention a text. -/
def dropIncludes (p : Profile) (needle : String) : Profile :=
  { p with includePaths := Path.withoutMention needle p.includePaths }

/-- Drops the directories of libraries that mention a text. -/
def dropLibPaths (p : Profile) (needle : String) : Profile :=
  { p with libPaths := Path.withoutMention needle p.libPaths }

def addInclude (p : Profile) (path : Path) : Profile :=
  { p with includePaths := p.includePaths ++ [path] }

def addLibPath (p : Profile) (path : Path) : Profile :=
  { p with libPaths := p.libPaths ++ [path] }

def addLibraries (p : Profile) (names : List String) : Profile :=
  { p with libraries := p.libraries ++ names }

/-- Adds libraries unless one of them, the marker, is there already. -/
def addLibrariesOnce (p : Profile) (marker : String) (names : List String) : Profile :=
  if marker ∈ p.libraries then p else p.addLibraries names

theorem addLibrariesOnce_twice (p : Profile) (marker : String) {names : List String}
    (h : marker ∈ names) :
    (p.addLibrariesOnce marker names).addLibrariesOnce marker names =
      p.addLibrariesOnce marker names := by
  by_cases hp : marker ∈ p.libraries
  · simp [addLibrariesOnce, hp]
  · simp [addLibrariesOnce, addLibraries, hp, h]

end Profile

namespace Relocatable

/-- Replaces the two directories of a library that keeps headers in `include` and libraries
in `lib`. -/
def replaceDirectories (l : Relocatable) (base : Path) (p : Profile) : Profile :=
  (((p.recordPlace l.key base).dropIncludes l.mention).dropLibPaths l.mention
    |>.addInclude (base.child "include")).addLibPath (base.child "lib")

/-- ParMETIS keeps headers and libraries side by side. -/
def replaceParMetis (base : Path) (p : Profile) : Profile :=
  (((p.recordPlace "parmetis" base).dropIncludes "ParMetis").dropLibPaths "ParMetis"
    |>.addInclude base).addLibPath base

/-- XSD has headers and a tool, and no library. -/
def replaceXsd (base : Path) (p : Profile) : Profile :=
  let replaced :=
    ((p.recordPlace "xsd" base).dropIncludes "libxsd").addInclude (base.child "libxsd")
  { replaced with
    tools := replaced.tools.insert "xsd" ((base.child "bin").child "xsd").text }

/-- Drops what a profile says about Boost. -/
def dropBoost (base : Path) (p : Profile) : Profile :=
  let recorded := p.recordPlace "boost" base
  ({ recorded with libraries := namesWithoutStart "boost_" recorded.libraries }
    |>.dropIncludes "boost").dropLibPaths "boost"

/-- Uses Boost from a place, which must hold `include` and `lib`. -/
def relocateBoost (t : FileTree) (version : String) (base : Path) :
    Action Misconfiguration Profile Unit := do
  Action.ofExcept (t.require base "Boost")
  Action.update (dropBoost base)
  let flat ← Action.ofExcept (Boost.hasFlatHeaders version)
  let libPath := base.child "lib"
  Action.update (fun p =>
    (p.addInclude (Boost.headerPath base version flat)).addLibPath libPath)
  let suffix ← Action.ofExcept (Boost.suffix t libPath)
  Action.note .debug ("Boost library suffix: `" ++ suffix ++ "`")
  Action.update (fun p => p.addLibraries [Boost.library ++ suffix])

/-- Uses a library from a place. -/
def relocate (t : FileTree) (l : Relocatable) (base : Path) :
    Action Misconfiguration Profile Unit :=
  match l with
  | .boost version => relocateBoost t version base
  | .hdf5 => do
      Action.ofExcept (t.require base l.component)
      Action.update (fun p =>
        (replaceDirectories l base p).addLibrariesOnce "hdf5" ["hdf5", "z"])
  | .xerces => do
      Action.ofExcept (t.require base l.component)
      Action.update (fun p =>
        (replaceDirectories l base p).addLibrariesOnce "xerces-c" ["xerces-c"])
  | .parmetis => do
      Action.ofExcept (t.require base l.component)
      Action.update (fun p =>
        (replaceParMetis base p).addLibrariesOnce "parmetis" ["parmetis", "metis"])
  | .xsd => do
      Action.ofExcept (t.require base l.component)
      Action.update (replaceXsd base)

end Relocatable

end HostLink
