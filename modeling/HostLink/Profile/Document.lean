import HostLink.Profile
import HostLink.Toml.Decoding
import HostLink.Toml.Reader
import HostLink.Toml.Writer

namespace HostLink
namespace Profile

/-!
Profiles as TOML.  Each field has a key of its own; a field that is absent, and one that has
its usual value without having been given, are told apart when a profile is written but not
when it is read.  Where relocated libraries were found is no part of the document.
-/

open Toml (Members Value)

def ofPath (path : Path) : Value :=
  .text path.text

def ofTexts (texts : List String) : Value :=
  .array (texts.map .text)

def ofPaths (paths : List Path) : Value :=
  .array (paths.map ofPath)

/-- A member for a value that is there. -/
def member {α : Type} (key : String) (toValue : α → Value) : Option α → Members
  | none => []
  | some a => [(key, toValue a)]

/-- The members of the document of a profile. -/
def toMembers (p : Profile) : Members :=
  member "petsc_2_2_path" ofPath p.petsc22 ++
    member "petsc_2_3_path" ofPath p.petsc23 ++
    member "petsc_3_0_path" ofPath p.petsc30 ++
    member "petsc_path" ofPath p.petsc31 ++
    [("petsc_build_name", .text p.arch)] ++
    member "petsc_build_name_optimized" .text p.archOptimised ++
    member "petsc_build_name_profile" .text p.archProfiling ++
    member "petsc_build_name_production" .text p.archProduction ++
    member "dealii_path" ofPath p.dealii ++
    member "intel_path" ofPath p.intel ++
    member "icpc" .text p.icpc ++
    [("features", .table (p.features.entries.map (fun x => (x.1, .boolean x.2))))] ++
    member "cvode_version" (fun v => .integer v.toNat) p.cvodeVersion ++
    [("other_includepaths", ofPaths p.includePaths),
      ("other_libpaths", ofPaths p.libPaths),
      ("other_libraries", ofTexts p.libraries),
      ("blas_lapack", ofTexts p.blasLapack)] ++
    member "blas_lapack_production" ofTexts p.blasLapackProduction ++
    [("tools", .table (p.tools.entries.map (fun x => (x.1, .text x.2)))),
      ("ccflags", .text p.compileFlags),
      ("ldflags", .text p.linkFlags)]

/-- The profile that the members of a document describe. -/
def ofMembers? (ms : Members) : Option Profile := do
  let path? := fun key => Toml.optional? ms key Toml.asPath?
  let text? := fun key => Toml.optional? ms key Toml.asText?
  let paths := Toml.asList? Toml.asPath?
  let texts := Toml.asList? Toml.asText?
  return {
    petsc22 := ← path? "petsc_2_2_path"
    petsc23 := ← path? "petsc_2_3_path"
    petsc30 := ← path? "petsc_3_0_path"
    petsc31 := ← path? "petsc_path"
    arch := ← Toml.withDefault? ms "petsc_build_name" Toml.asText? usualArch
    archOptimised := ← text? "petsc_build_name_optimized"
    archProfiling := ← text? "petsc_build_name_profile"
    archProduction := ← text? "petsc_build_name_production"
    dealii := ← path? "dealii_path"
    intel := ← path? "intel_path"
    icpc := ← text? "icpc"
    features := ← Toml.withDefault? ms "features" (Toml.asMap? Toml.asBool?) OrderedMap.empty
    cvodeVersion := ← Toml.optional? ms "cvode_version" Toml.asWord?
    includePaths := ← Toml.withDefault? ms "other_includepaths" paths []
    libPaths := ← Toml.withDefault? ms "other_libpaths" paths []
    libraries := ← Toml.withDefault? ms "other_libraries" texts []
    blasLapack := ← Toml.withDefault? ms "blas_lapack" texts plain.blasLapack
    blasLapackProduction := ← Toml.optional? ms "blas_lapack_production" texts
    tools := ← Toml.withDefault? ms "tools" (Toml.asMap? Toml.asText?) OrderedMap.empty
    compileFlags := ← Toml.withDefault? ms "ccflags" Toml.asText? ""
    linkFlags := ← Toml.withDefault? ms "ldflags" Toml.asText? ""
    relocations := OrderedMap.empty }

/-- The document of a profile. -/
def document (p : Profile) (style : Toml.Style) : String :=
  Toml.render style p.toMembers

end Profile
end HostLink
