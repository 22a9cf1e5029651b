import HostLink.OrderedMap
import HostLink.Release

namespace HostLink

/-!
What is to be built: with which compiler, in which flavour, against which libraries, and by
which tool commands.
-/

/-- The compilers that a build can use. -/
inductive Compiler where
  | gcc
  | intel
  deriving DecidableEq

namespace Compiler

def name : Compiler → String
  | .gcc => "gcc"
  | .intel => "intel"

/-- The text with its ASCII letters in lower case. -/
def lowerCase (text : String) : String :=
  String.ofList (text.toList.map Char.toLower)

/-- The compiler of a name, in upper or lower case. -/
def ofName (name : String) : Except String Compiler :=
  match lowerCase name with
  | "gcc" => .ok .gcc
  | "gnu" => .ok .gcc
  | "intel" => .ok .intel
  | "icpc" => .ok .intel
  | other => .error ("unknown compiler family `" ++ other ++ "`")

theorem ofName_name (c : Compiler) : ofName c.name = .ok c := by
  cases c <;> rfl

end Compiler

/-- The versions asked for, by library. -/
abbrev Preferences := OrderedMap String String

/-- Commands, by the name of the tool. -/
abbrev Tools := OrderedMap String String

/-- A build. -/
structure Build where
  compiler : Compiler
  optimised : Bool
  profiling : Bool
  production : Bool
  /-- Whether the finished configuration is written to the notes. -/
  debug : Bool
  usingDealii : Bool
  /-- Whether the debugging libraries of Deal.II are linked. -/
  dealiiDebugging : Bool
  preferences : Preferences
  tools : Tools
  deriving DecidableEq

namespace Build

def usualTools : Tools :=
  OrderedMap.ofList
    [("cxx", "g++"), ("ar", "ar"), ("mpicxx", "mpicxx"), ("mpirun", "mpirun")]

/-- The build without any wish: the GNU compiler and the debugging flavour. -/
def plain : Build where
  compiler := .gcc
  optimised := false
  profiling := false
  production := false
  debug := false
  usingDealii := false
  dealiiDebugging := false
  preferences := OrderedMap.empty
  tools := usualTools

instance : Inhabited Build := ⟨plain⟩

/-- The flavour of the libraries that the build links. -/
def flavour (b : Build) : Flavour :=
  Flavour.ofFlags b.optimised b.profiling b.production

/-- Asks for a version of a library. -/
def prefer (b : Build) (library version : String) : Build :=
  { b with preferences := b.preferences.insert library version }

end Build

end HostLink
