import HostLink.Path.Absolute
import HostLink.Relocation
import HostLink.Sundials

namespace HostLink

/-!
What a machine may do to its own description before anything is resolved.  An adjustment
works on the profile and may remove files; every path it takes counts from the project root.
-/

/-- The state on which adjustments work. -/
structure Host where
  tree : FileTree
  profile : Profile

/-- An adjustment. -/
abbrev Adjustment := Action Misconfiguration Host

namespace Host

/-- A step on the profile alone. -/
def onProfile {α : Type} (x : FileTree → Action Misconfiguration Profile α) : Adjustment α :=
  fun h => Action.onPart profile (fun p h => { h with profile := p }) (x h.tree) h

/-- Changes the profile. -/
def adjust (f : Profile → Profile) : Adjustment Unit :=
  Action.update (fun h => { h with profile := f h.profile })

/-- Fails, naming a component, unless a path denotes something. -/
def require (root path : Path) (component : String) : Adjustment Unit := do
  let h ← Action.state
  Action.ofExcept (h.tree.require (Path.absolute root path) component)

/-- Uses a library from a place. -/
def relocate (root : Path) (l : Relocatable) (base : Path) : Adjustment Unit :=
  onProfile (fun t => l.relocate t (Path.absolute root base))

/-- Finds the version of CVODE from its headers and records it. -/
def findCvode (root includePath : Path) : Adjustment UInt32 := do
  let h ← Action.state
  let version ← Sundials.installedVersion h.tree (Path.absolute root includePath)
  adjust (fun p => { p with cvodeVersion := some version })
  return version

/-- Removes the files that fit a pattern, and counts them. -/
def removeMatching (root : Path) (pattern : String) : Adjustment Nat :=
  Action.onPart tree (fun t h => { h with tree := t })
    (Glob.removeMatching (root.join ⟨pattern⟩).text)

end Host

end HostLink
