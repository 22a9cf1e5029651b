namespace HostLink

/-!
Optional libraries.  Each has the key under which a machine file switches it on, and the
preprocessor symbol that tells the compiled code of it.
-/

/-- The optional libraries that compiled code can be told of. -/
inductive Feature where
  | cvode
  | vtk
  | adaptivity
  deriving DecidableEq

namespace Feature

def all : List Feature :=
  [.cvode, .vtk, .adaptivity]

def key : Feature → String
  | .cvode => "cvode"
  | .vtk => "vtk"
  | .adaptivity => "adaptivity"

def symbol : Feature → String
  | .cvode => "CHASTE_CVODE"
  | .vtk => "CHASTE_VTK"
  | .adaptivity => "CHASTE_ADAPTIVITY"

def ofKey? (key : String) : Option Feature :=
  all.find? (fun f => f.key == key)

theorem ofKey?_key (f : Feature) : ofKey? f.key = some f := by
  cases f <;> rfl

end Feature

end HostLink
