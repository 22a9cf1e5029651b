import HostLink.Action
import HostLink.Machine
import HostLink.Text.Blank
import HostLink.Text.Case

namespace HostLink

/-!
What a host is called and which distribution it runs, as far as its environment and its
system files tell.
-/

/-- The name of a host and the name of its distribution. -/
structure HostIdentity where
  hostname : Option String
  distribution : Option String
  deriving DecidableEq

namespace HostIdentity

/-- A name without blanks around it and without its domain. -/
def shortName (name : String) : String :=
  (Text.pieces '.' (Text.trimmed name)).headD ""

/-- The first line of a file without the blanks around it, if there is anything else. -/
def firstLine? (t : FileTree) (path : Path) : Option String := do
  let text ← (t.readText path).toOption
  let line ← (Text.lines text).head?
  let trimmed := Text.trimmed line
  if trimmed = "" then none else some trimmed

/-- The name of the host: from the environment, or else from the system files. -/
def hostnameOf (t : FileTree) (env : Environment) : Option String :=
  (((env.find? "HOSTNAME").filter (fun name => !Text.isAllBlank name)).or
      ((firstLine? t ⟨"/etc/hostname"⟩).or
        (firstLine? t ⟨"/proc/sys/kernel/hostname"⟩))).map shortName

/-- The distribution that an issue file names: its first word, in lower case. -/
def distributionIn (t : FileTree) (path : Path) : Option String := do
  let text ← (t.readText path).toOption
  let word ← Text.firstWord? text
  return Text.lowerCase word

/-- The names of a host as they are shown. -/
def text (host : HostIdentity) : String :=
  host.hostname.getD "unknown" ++ " (" ++
    host.distribution.getD "unknown distribution" ++ ")"

/-- The host of this environment. -/
def detect {ε σ : Type} (t : FileTree) (env : Environment) : Action ε σ HostIdentity := do
  let host : HostIdentity :=
    { hostname := hostnameOf t env
      distribution := distributionIn t ⟨"/etc/issue"⟩ }
  Action.note .debug ("host: " ++ host.text)
  return host

end HostIdentity

end HostLink
