import HostLink.Action
import HostLink.FileTree

namespace HostLink

/-!
Releases and flavours of libraries.  A request for a release may be met by an older one: the
releases from the requested one downwards form a chain, and the newest of them that is
installed is taken.
-/

/-- The PETSc release series that can be linked. -/
inductive PetscRelease where
  | v2_2
  | v2_3
  | v3_0
  | v3_1
  deriving DecidableEq

/-- How a library was compiled. -/
inductive Flavour where
  | debug
  | optimised
  | profiling
  | production
  deriving DecidableEq

namespace Flavour

/-- Production counts before profiling, and profiling before optimised. -/
def ofFlags (optimised profiling production : Bool) : Flavour :=
  if production then .production
  else if profiling then .profiling
  else if optimised then .optimised
  else .debug

def name : Flavour → String
  | .debug => "debug"
  | .optimised => "optimized"
  | .profiling => "profile"
  | .production => "production"

end Flavour

/-- Versions in the order in which they are tried. -/
structure Chain (ν : Type) where
  versions : List ν
  deriving DecidableEq

namespace Chain

variable {ν : Type}

/-- The chain from the first occurrence of a version on; without one, nothing is left.  The
test for equality of the versions says what an occurrence is. -/
def startingAt [BEq ν] (chain : Chain ν) (start : ν) : Chain ν where
  versions := chain.versions.dropWhile (fun v => !(v == start))

theorem startingAt_isSuffix [BEq ν] (chain : Chain ν) (start : ν) :
    (chain.startingAt start).versions <:+ chain.versions :=
  List.dropWhile_suffix _

theorem startingAt_eq_nil_iff [BEq ν] (chain : Chain ν) (start : ν) :
    (chain.startingAt start).versions = [] ↔ ∀ v ∈ chain.versions, ¬ (v == start) = true := by
  obtain ⟨versions⟩ := chain
  induction versions with
  | nil => simp [startingAt]
  | cons v rest inductionHypothesis =>
      unfold startingAt at inductionHypothesis ⊢
      rw [List.dropWhile_cons, List.forall_mem_cons, ← inductionHypothesis]
      by_cases occurs : (v == start) = true
      · simp [occurs]
      · simp [occurs]

/-- The first version whose installation is configured and is a directory. -/
def select {ε σ : Type} (t : FileTree) (installation : ν → Option Path) :
    List ν → Action ε σ (Option (ν × Path))
  | [] => Action.pure none
  | version :: rest =>
      match installation version with
      | none => select t installation rest
      | some path =>
          if t.isDirectory path then Action.pure (some (version, path))
          else do
            Action.note .debug
              ("skipping version: " ++ path.text ++ " is not a directory")
            select t installation rest

/-- The first version that is installed, with its directory. -/
def installed {ε σ : Type} (chain : Chain ν) (t : FileTree)
    (installation : ν → Option Path) : Action ε σ (Option (ν × Path)) :=
  select t installation chain.versions

end Chain

namespace PetscRelease

def name : PetscRelease → String
  | .v2_2 => "2.2"
  | .v2_3 => "2.3"
  | .v3_0 => "3.0"
  | .v3_1 => "3.1"

/-- The release that a version belongs to: its first three characters name it. -/
def ofVersion? (version : String) : Option PetscRelease :=
  match Text.leading 3 version with
  | "2.2" => some .v2_2
  | "2.3" => some .v2_3
  | "3.0" => some .v3_0
  | "3.1" => some .v3_1
  | _ => none

theorem ofVersion?_name (r : PetscRelease) : ofVersion? r.name = some r := by
  cases r <;> rfl

/-- Whether the release keeps headers and libraries in one directory per architecture. -/
def isThree : PetscRelease → Bool
  | .v3_0 => true
  | .v3_1 => true
  | _ => false

/-- All releases, newest first. -/
def newestFirst : Chain PetscRelease where
  versions := [.v3_1, .v3_0, .v2_3, .v2_2]

/-- A release and the older ones, in the order in which they are tried. -/
def chain (r : PetscRelease) : Chain PetscRelease :=
  newestFirst.startingAt r

end PetscRelease

end HostLink
