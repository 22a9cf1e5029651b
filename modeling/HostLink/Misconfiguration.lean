import HostLink.Diagnostic
import HostLink.FileTree

namespace HostLink

/-!
What can be wrong with the description of a host.  Each cause names the component at fault
and where it was expected, and has a one-line message, a code for programs and a report for
people.  None of them goes away by trying again, so a run stops at the first one.
-/

/-- A cause for which a host cannot be configured. -/
inductive Misconfiguration where
  /-- No usable installation of the requested or an older version. -/
  | missingDependency (component requested : String) (tried : List String)
  /-- A library that is needed has no path. -/
  | notConfigured (component : String)
  /-- A path that was given does not exist. -/
  | pathNotFound (component : String) (path : Path)
  /-- A directory that an installation should have is missing. -/
  | directoryNotFound (component what : String) (path : Path)
  /-- A version header is missing or states no usable version. -/
  | versionHeader (path : Path) (reason : String)
  /-- The requested version is none that is known. -/
  | unknownVersion (component version : String)
  /-- A version that cannot be read as one. -/
  | invalidVersion (component version : String)
  /-- Library versions were asked for that the machine cannot switch to. -/
  | unsupportedPreferences (machine : String) (preferences : List String)
  /-- A library file that should be installed is missing. -/
  | libraryNotFound (component library : String) (path : Path)
  /-- A file cannot be read; `cause` says why. -/
  | unreadable (path : Path) (cause : String)
  deriving DecidableEq

namespace Misconfiguration

open Text (joined)

def message : Misconfiguration → String
  | .missingDependency component requested _ =>
      component ++ " " ++ requested ++
        " requested, but no path for this or an earlier version given in the host config"
  | .notConfigured component =>
      component ++ " required, but no path given in the host config"
  | .pathNotFound component path =>
      "cannot use " ++ component ++ " from " ++ path.text ++ ": path does not exist"
  | .directoryNotFound component what path =>
      component ++ " " ++ what ++ " directory " ++ path.text ++ " not found"
  | .versionHeader path reason => reason ++ ": " ++ path.text
  | .unknownVersion component version =>
      "unrecognised " ++ component ++ " version requested: " ++ version
  | .invalidVersion component version =>
      "invalid " ++ component ++ " version `" ++ version ++ "`"
  | .unsupportedPreferences machine _ =>
      "machine configuration `" ++ machine ++
        "` has no support for setting preferred library versions"
  | .libraryNotFound component library path =>
      component ++ " library " ++ library ++ " not found in " ++ path.text
  | .unreadable path _ => "failed to read " ++ path.text

/-- The code by which programs tell the causes apart. -/
def code (m : Misconfiguration) : String :=
  "hostconf::config::" ++
    match m with
    | .missingDependency _ _ _ => "missing_dependency"
    | .notConfigured _ => "not_configured"
    | .pathNotFound _ _ => "path_not_found"
    | .directoryNotFound _ _ _ => "directory_not_found"
    | .versionHeader _ _ => "version_header"
    | .unknownVersion _ _ => "unknown_version"
    | .invalidVersion _ _ => "invalid_version"
    | .unsupportedPreferences _ _ => "unsupported_preferences"
    | .libraryNotFound _ _ _ => "library_not_found"
    | .unreadable _ _ => "io"

def setInstallPath (component : String) : String :=
  "Set the install path for " ++ component ++ " in the machine file"

/-- The report of a cause: where it shows and what to try. -/
def diagnostic (m : Misconfiguration) : Diagnostic :=
  match m with
  | .missingDependency component _ tried =>
      { message := m.message
        remarks := if tried.isEmpty then [] else ["versions tried: " ++ joined ", " tried]
        suggestions := [setInstallPath component, Diagnostic.listMachines] }
  | .notConfigured component =>
      { message := m.message
        suggestions := [setInstallPath component, Diagnostic.listMachines] }
  | .pathNotFound _ path =>
      { message := m.message
        location := some path
        suggestions := ["Check the path in the machine file"] }
  | .directoryNotFound _ _ path =>
      { message := m.message
        location := some path
        suggestions := ["Check the path in the machine file"] }
  | .versionHeader path _ =>
      { message := m.message
        location := some path
        suggestions := ["Point the CVODE location at its install prefix"] }
  | .unknownVersion _ _ =>
      { message := m.message
        suggestions := [Diagnostic.useBuildString] }
  | .invalidVersion _ _ =>
      { message := m.message
        suggestions := [Diagnostic.useBuildString] }
  | .unsupportedPreferences _ preferences =>
      { message := m.message
        remarks := ["preferences: " ++ joined ", " preferences]
        suggestions :=
          ["Drop the `_hostconfig` section from the build type",
            "Give the machine file a [locations] table"] }
  | .libraryNotFound _ _ path =>
      { message := m.message
        location := some path
        suggestions := ["Check that the library was built with this toolchain"] }
  | .unreadable path cause =>
      { message := m.message
        location := some path
        remarks := [cause] }

end Misconfiguration

/-- Fails, naming a component, unless a path denotes something. -/
def FileTree.require (t : FileTree) (path : Path) (component : String) :
    Except Misconfiguration Unit :=
  if t.present path then .ok () else .error (.pathNotFound component path)

end HostLink
