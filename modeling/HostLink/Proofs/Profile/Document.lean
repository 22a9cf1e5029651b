import HostLink.Machine.Description
import HostLink.Proofs.Toml.Decoding
import HostLink.Proofs.Toml.Document

namespace HostLink

/-!
# The document of a profile describes a machine with that profile

Every field of a profile has a key of its own, and a field that is absent is left out.  The
document holds one kind of value under each key, the kind in which that key is read, and holds no
other keys.  So a profile is read back from its document whatever its fields are, except that
nothing is known about where relocated libraries were found, and the machine that the document
describes does nothing beyond what its profile says.
-/

namespace Profile

open Toml (Members Value Plain Writable Recovers Storable depthBound present)

/-- The fields of a document, with the values of those that are there. -/
def fields (p : Profile) : List (String × Option Value) :=
  [("petsc_2_2_path", p.petsc22.map ofPath),
    ("petsc_2_3_path", p.petsc23.map ofPath),
    ("petsc_3_0_path", p.petsc30.map ofPath),
    ("petsc_path", p.petsc31.map ofPath),
    ("petsc_build_name", some (.text p.arch)),
    ("petsc_build_name_optimized", p.archOptimised.map .text),
    ("petsc_build_name_profile", p.archProfiling.map .text),
    ("petsc_build_name_production", p.archProduction.map .text),
    ("dealii_path", p.dealii.map ofPath),
    ("intel_path", p.intel.map ofPath),
    ("icpc", p.icpc.map .text),
    ("features", some (.table (p.features.entries.map (fun x => (x.1, .boolean x.2))))),
    ("cvode_version", p.cvodeVersion.map (fun v => .integer v.toNat)),
    ("other_includepaths", some (ofPaths p.includePaths)),
    ("other_libpaths", some (ofPaths p.libPaths)),
    ("other_libraries", some (ofTexts p.libraries)),
    ("blas_lapack", some (ofTexts p.blasLapack)),
    ("blas_lapack_production", p.blasLapackProduction.map ofTexts),
    ("tools", some (.table (p.tools.entries.map (fun x => (x.1, .text x.2))))),
    ("ccflags", some (.text p.compileFlags)),
    ("ldflags", some (.text p.linkFlags))]

theorem member_eq_toList {α : Type} (key : String) (toValue : α → Value) (o : Option α) :
    member key toValue o = ((o.map toValue).map (fun v => (key, v))).toList := by
  cases o <;> rfl

theorem toMembers_eq (p : Profile) : p.toMembers = present p.fields := by
  simp only [toMembers, fields, member_eq_toList, Toml.present_cons, List.append_assoc]
  rfl

/-- Every field has a key of its own. -/
theorem nodup_keys_fields (p : Profile) : (p.fields.map Prod.fst).Nodup := by
  simp [fields]

/-! ## The document can be written -/

theorem writable_text (s : String) : Writable (.text s) :=
  .line (.text s)

theorem writable_array {α : Type} {toValue : α → Value}
    (each : ∀ a, Plain (depthBound - 2) (toValue a)) (items : List α) :
    Writable (.array (items.map toValue)) := by
  refine .line (.array ?_)
  intro v listed
  rcases List.mem_map.mp listed with ⟨a, _, rfl⟩
  exact each a

theorem writable_table {α : Type} {toValue : α → Value}
    (each : ∀ a, Plain (depthBound - 1) (toValue a)) (m : OrderedMap String α) :
    Writable (.table (m.entries.map (fun x => (x.1, toValue x.2)))) := by
  refine .table ?_ ?_
  · rw [List.map_map]
    exact m.nodup_keys
  · intro entry listed
    rcases List.mem_map.mp listed with ⟨x, _, rfl⟩
    exact each x.2

theorem writable_version (version : UInt32) : Writable (.integer version.toNat) := by
  have held := version.toNat_lt
  exact .line (.natural (by omega))

theorem writable_map {α : Type} {toValue : α → Value} (each : ∀ a, Writable (toValue a))
    (o : Option α) : ∀ v ∈ o.map toValue, Writable v := by
  intro v written
  rcases Option.map_eq_some_iff.mp written with ⟨a, _, rfl⟩
  exact each a

theorem writable_some {v : Value} (own : Writable v) : ∀ w ∈ some v, Writable w := by
  rintro w ⟨⟩
  exact own

/-- A field that is there has a value that can be written. -/
theorem writable_of_mem_fields {p : Profile} {key : String} {v : Value}
    (listed : (key, some v) ∈ p.fields) : Writable v := by
  have each : ∀ f ∈ p.fields, ∀ w ∈ f.2, Writable w := by
    have path := writable_map (fun path : Path => writable_text path.text)
    have text := writable_map writable_text
    have texts := @writable_array String .text Plain.text
    have paths := @writable_array Path ofPath (fun path => .text path.text)
    simp only [fields, List.forall_mem_cons]
    exact ⟨path _, path _, path _, path _, writable_some (writable_text _), text _, text _, text _,
      path _, path _, text _, writable_some (writable_table Plain.boolean _),
      writable_map writable_version _, writable_some (paths _), writable_some (paths _),
      writable_some (texts _), writable_some (texts _), writable_map texts _,
      writable_some (writable_table Plain.text _), writable_some (writable_text _),
      writable_some (writable_text _), nofun⟩
  exact each _ listed v rfl

theorem storable_toMembers (p : Profile) : Storable p.toMembers := by
  rw [toMembers_eq]
  refine ⟨(Toml.keys_present_sublist _).nodup p.nodup_keys_fields, ?_⟩
  rintro ⟨key, v⟩ listed
  exact writable_of_mem_fields (Toml.mem_present_iff.mp listed)

/-! ## The document is read back -/

/-- Members that agree with the document of a profile on every key. -/
def AgreesWith (ms : Members) (p : Profile) : Prop :=
  ∀ key, Toml.member? ms key = Toml.member? p.toMembers key

section

variable {p : Profile} {ms : Members} {key : String}

theorem AgreesWith.field (agrees : AgreesWith ms p) {o : Option Value}
    (listed : (key, o) ∈ p.fields) : Toml.member? ms key = o := by
  rw [agrees, toMembers_eq, Toml.member?_present p.nodup_keys_fields listed]

theorem AgreesWith.absent (agrees : AgreesWith ms p) (unknown : key ∉ p.fields.map Prod.fst) :
    Toml.member? ms key = none := by
  rw [agrees, toMembers_eq, Toml.member?_present_of_notMem unknown]

theorem AgreesWith.ofMembers? (agrees : AgreesWith ms p) :
    Profile.ofMembers? ms = some { p with relocations := OrderedMap.empty } := by
  have path : Recovers Toml.asPath? ofPath := fun _ => rfl
  have text := Toml.recovers_text
  have paths : Recovers (Toml.asList? Toml.asPath?) ofPaths := path.list
  have texts : Recovers (Toml.asList? Toml.asText?) ofTexts := text.list
  have found : ∀ f ∈ p.fields, Toml.member? ms f.1 = f.2 := fun f listed => agrees.field listed
  simp only [fields, List.forall_mem_cons] at found
  -- One fact for each key, in the order in which the keys are asked for.
  rcases found with ⟨petsc22, petsc23, petsc30, petsc31, arch, archOptimised, archProfiling,
    archProduction, dealii, intel, icpc, features, cvodeVersion, includePaths, libPaths, libraries,
    blasLapack, blasLapackProduction, tools, compileFlags, linkFlags, _⟩
  simp only [Profile.ofMembers?, path.optional? petsc22, path.optional? petsc23,
    path.optional? petsc30, path.optional? petsc31, text.withDefault? arch,
    text.optional? archOptimised, text.optional? archProfiling, text.optional? archProduction,
    path.optional? dealii, path.optional? intel, text.optional? icpc,
    Toml.recovers_boolean.map.withDefault? features, Toml.recovers_word.optional? cvodeVersion,
    paths.withDefault? includePaths, paths.withDefault? libPaths, texts.withDefault? libraries,
    texts.withDefault? blasLapack, texts.optional? blasLapackProduction,
    text.map.withDefault? tools, text.withDefault? compileFlags, text.withDefault? linkFlags,
    Option.bind_eq_bind, Option.bind_some, Option.pure_def]

end

end Profile

namespace MachineDescription

open Profile (AgreesWith)

/-- What a document without the three keys of a machine describes. -/
theorem ofMembers?_of_agreesWith {p : Profile} {ms : Toml.Members} (agrees : AgreesWith ms p) :
    ofMembers? ms =
      some ⟨none, Places.none, OrderedMap.empty, { p with relocations := OrderedMap.empty }⟩ := by
  have summary : Toml.member? ms "description" = none := agrees.absent (by simp [Profile.fields])
  have places : Toml.member? ms "locations" = none := agrees.absent (by simp [Profile.fields])
  have versions : Toml.member? ms "versions" = none := agrees.absent (by simp [Profile.fields])
  simp [ofMembers?, Toml.withDefault?, Toml.optional?, summary, places, versions,
    agrees.ofMembers?]

/-- The document of a profile, in either style, is the description of a machine that has this
profile and no hooks.  Only the places of relocated libraries are lost. -/
theorem ofText?_document (p : Profile) (style : Toml.Style) :
    ∃ d, ofText? (p.document style) = some d ∧
      d.profile = { p with relocations := OrderedMap.empty } ∧
      d.summary = none ∧ d.places = Places.none ∧ d.versions = OrderedMap.empty ∧
      ∀ id source,
        d.toMachine id source =
          { id := id, source := source, profile := d.profile,
            onConfigure := none, onPreferences := none, onModifyBuild := none } := by
  have storable := p.storable_toMembers
  have agrees : AgreesWith (Toml.tablesLast p.toMembers) p :=
    Toml.member?_perm (Toml.tablesLast_perm p.toMembers) storable.keys
  have read : ofText? (p.document style) = ofMembers? (Toml.tablesLast p.toMembers) := by
    rw [ofText?, Profile.document, Toml.read?_render storable, Option.bind_some]
  have described := read.trans (ofMembers?_of_agreesWith agrees)
  exact ⟨_, described, rfl, rfl, rfl, rfl, fun _ _ => rfl⟩

end MachineDescription

end HostLink
