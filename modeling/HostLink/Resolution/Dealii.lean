import HostLink.Resolution.Petsc
import HostLink.Text.Blank

namespace HostLink
namespace Dealii

/-!
Headers and libraries of Deal.II.  Its debugging libraries differ from the others in their
names, by an ending `.g`, and not in their place.  Its headers include those of PETSc, so
PETSc is resolved first: version 6 needs only the headers of release 2.3, because it brings
a library `petscall` along, and older versions link all of release 2.2.
-/

def component : String := "Deal.II"

def headerDirs : List String :=
  ["base/include", "lac/include", "deal.II/include"]

def splitLibraries : List String :=
  ["deal_II_1d", "deal_II_2d", "deal_II_3d", "lac", "base"]

/-- The libraries to link, of version 6 or an older one. -/
def libraries (six debugging : Bool) : List String :=
  let names := splitLibraries ++ if six then ["petscall"] else []
  if debugging then names.map (· ++ ".g") else names

/-- The version that an installation states about itself. -/
def statedVersion (t : FileTree) (base : Path) : Except Misconfiguration String :=
  let file := base.child "Version"
  match t.readText file with
  | .ok text => .ok (Text.trimmed text)
  | .error cause => .error (.unreadable file cause.message)

/-- Adds Deal.II and what it needs of PETSc.  Only the optimised flag of the build chooses
the flavour of PETSc here. -/
def resolve (t : FileTree) (b : Build) : Action Misconfiguration Context Unit := do
  let c ← Action.state
  match c.profile.dealii with
  | none => Action.fail (.notConfigured component)
  | some path =>
      let base := c.absolute path
      Action.ofExcept (t.require base component)
      let version ← Action.ofExcept (statedVersion t base)
      let six := Text.startsWith "6." version
      Action.note .debug ("Deal.II version " ++ version ++ " at " ++ base.text)
      let flavour := Flavour.ofFlags b.optimised false false
      let _ ←
        if six then Petsc.resolve t "2.3" flavour true
        else Petsc.resolve t "2.2" flavour false
      Action.update (fun c =>
        ((c.addLibPaths [base.child "lib"]).addIncludes (headerDirs.map base.child)).addLibraries
          (libraries six b.dealiiDebugging))

end Dealii
end HostLink
