import HostLink.LinkLine
import HostLink.Path.Absolute
import HostLink.Profile

namespace HostLink

/-- The state of a resolution: the profile that is resolved, what was found so far, and the
settings of the run. -/
structure Context where
  profile : Profile
  line : LinkLine
  root : Path
  /-- Whether PETSc is left to the compiler commands of the platform. -/
  skipPetsc : Bool

namespace Context

/-- Nothing is found at the start. -/
def start (profile : Profile) (root : Path) (skipPetsc : Bool) : Context where
  profile := profile
  line := LinkLine.empty
  root := root
  skipPetsc := skipPetsc

/-- A path of the profile, taken from the project root. -/
def absolute (c : Context) (path : Path) : Path :=
  Path.absolute c.root path

def addIncludes (c : Context) (paths : List Path) : Context :=
  { c with line := c.line.addIncludes paths }

def addLibPaths (c : Context) (paths : List Path) : Context :=
  { c with line := c.line.addLibPaths paths }

def addLibraries (c : Context) (names : List String) : Context :=
  { c with line := c.line.addLibraries names }

/-- Sets a tool command of the profile. -/
def setTool (c : Context) (tool command : String) : Context :=
  { c with profile := { c.profile with tools := c.profile.tools.insert tool command } }

end Context

end HostLink
