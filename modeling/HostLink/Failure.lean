import HostLink.Build.Compact
import HostLink.Glob.Expansion
import HostLink.Misconfiguration

namespace HostLink

/-!
Everything for which a command can fail.  A failure that has a cause of its own tells it
behind a colon; a document that is not well formed is named without the place of its fault.
-/

/-- Why a command failed. -/
inductive Failure where
  | misconfigured (cause : Misconfiguration)
  | invalidBuild (cause : Build.InvalidWord)
  /-- The build that the settings give is invalid. -/
  | invalidDefaultBuild (cause : Build.InvalidWord)
  | unreadableFile (path : Path) (cause : FileFailure)
  | malformedFile (path : Path)
  | unreadableSettings (path : Path) (cause : FileFailure)
  | malformedSettings (path : Path)
  | invalidPattern (cause : Glob.InvalidPattern)

namespace Failure

def message : Failure → String
  | .misconfigured cause => cause.message
  | .invalidBuild cause => cause.message
  | .invalidDefaultBuild cause => "invalid default build in config: " ++ cause.message
  | .unreadableFile path cause => "failed to read file: " ++ path.text ++ ": " ++ cause.message
  | .malformedFile path => "failed to parse " ++ path.text
  | .unreadableSettings path cause =>
      "failed to read config file: " ++ path.text ++ ": " ++ cause.message
  | .malformedSettings path => "failed to parse config file: " ++ path.text
  | .invalidPattern cause => cause.message

end Failure

/-- The text of a file. -/
def FileTree.textOf (t : FileTree) (path : Path) : Except Failure String :=
  match t.readText path with
  | .ok text => .ok text
  | .error cause => .error (.unreadableFile path cause)

end HostLink
