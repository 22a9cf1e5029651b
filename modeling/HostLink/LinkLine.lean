import HostLink.Path

namespace HostLink

/-!
What a compiler and a linker are told: where to look for headers, where to look for
libraries, and which libraries to link.  Both take the first match, so the order of the
entries matters; nothing here changes the order or drops a repetition, and new entries go to
the end.
-/

/-- Search paths and libraries, each list in the order of precedence. -/
structure LinkLine where
  includePaths : List Path
  libPaths : List Path
  libraries : List String
  deriving DecidableEq

namespace LinkLine

def empty : LinkLine where
  includePaths := []
  libPaths := []
  libraries := []

instance : Inhabited LinkLine := ⟨empty⟩

def addIncludes (l : LinkLine) (paths : List Path) : LinkLine :=
  { l with includePaths := l.includePaths ++ paths }

def addLibPaths (l : LinkLine) (paths : List Path) : LinkLine :=
  { l with libPaths := l.libPaths ++ paths }

def addLibraries (l : LinkLine) (names : List String) : LinkLine :=
  { l with libraries := l.libraries ++ names }

/-- The flags for a compiler. -/
def compileFlags (l : LinkLine) : List String :=
  l.includePaths.map (fun p => "-I" ++ p.text)

/-- The flags for a linker, search paths before libraries. -/
def linkFlags (l : LinkLine) : List String :=
  l.libPaths.map (fun p => "-L" ++ p.text) ++ l.libraries.map ("-l" ++ ·)

end LinkLine

namespace Path

/-- The paths that do not mention a text. -/
def withoutMention (needle : String) (paths : List Path) : List Path :=
  paths.filter (fun p => !Text.mentions needle p.text)

/-- The paths that do not lead below a directory. -/
def outside (base : Path) (paths : List Path) : List Path :=
  paths.filter (fun p => !base.isUnder p)

end Path

/-- The names that do not begin with a text. -/
def namesWithoutStart (start : String) (names : List String) : List String :=
  names.filter (fun name => !Text.startsWith start name)

end HostLink
