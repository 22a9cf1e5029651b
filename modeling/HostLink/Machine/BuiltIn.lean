import HostLink.Machine
import HostLink.Text.Quoted

namespace HostLink
namespace Machine

/-!
The machines that are always there: one that takes PETSc from the environment and everything
else from the system, and two whose libraries are packages of a Linux distribution.
-/

/-- The libraries that every built-in machine links besides PETSc. -/
def commonLibraries : List String :=
  ["boost_serialization", "xerces-c", "hdf5", "z"]

/-- The machine that fits where no other does. -/
def generic (env : Environment) : Machine :=
  ofProfile "default"
    { Profile.plain with
      petsc31 := (env.nonEmpty? "PETSC_DIR").map Path.mk
      arch := (env.nonEmpty? "PETSC_ARCH").getD Profile.usualArch
      libraries := commonLibraries }

/-- What the packages of the distributions have in common. -/
def packagedProfile : Profile :=
  { Profile.plain with
    petsc23 := some ⟨"/usr/lib/petscdir/2.3.3"⟩
    arch := "linux-gnu-c-debug"
    archOptimised := some "linux-gnu-c-opt"
    archProduction := some "linux-gnu-c-opt"
    libraries := commonLibraries ++ ["parmetis", "metis"]
    tools := OrderedMap.ofList [("xsd", "/usr/bin/xsdcxx")] }

/-- Packages come in one version each, so only the version of PETSc can be asked for. -/
def acceptPackagedVersions (preferences : Preferences) (root : Path) : Adjustment Unit :=
  match preferences.withoutPetsc.shown with
  | [] => Action.pure ()
  | rejected => do
      Action.note .debug
        ("packaged profile rooted at " ++ root.text ++ " cannot switch " ++
          Text.quotedList rejected)
      Action.fail (.unsupportedPreferences "distribution packages" rejected)

def ubuntu : Machine :=
  { ofProfile "ubuntu"
      { packagedProfile with
        petsc30 := some ⟨"/usr/lib/petscdir/3.0.0"⟩
        includePaths := [⟨"/usr/include/metis"⟩, ⟨"/usr/include/vtk-5.2"⟩] } with
    onPreferences := some acceptPackagedVersions }

def debian : Machine :=
  { ofProfile "debian"
      { packagedProfile with includePaths := [⟨"/usr/include/metis"⟩] } with
    onPreferences := some acceptPackagedVersions }

end Machine
end HostLink
