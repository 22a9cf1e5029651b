import HostLink.Project
import HostLink.Proofs.Build.RoundTrip

namespace HostLink
namespace Request

open Build (Modifier Wording)

/-!
# What a request asks for

A request adds flags and versions to a build, which is that of its own build word, or the usual
one of the settings, or the plain one.  Nothing that the build has is taken away, and nothing is
added that was not asked for, apart from two flags that others bring along: a production build
is an optimised one, and the debugging libraries of Deal.II are libraries of Deal.II.

So the same build can be asked for in two ways, by flags and by a build word.  The word that lists
the flags and the versions of a request means what the request means, up to the `-` that a word
takes for a point.
-/

variable {r : Request} {s : Settings}

/-! ## The build to start from -/

/-- The build to which the request adds. -/
inductive StartsFrom (r : Request) (s : Settings) : Build → Prop
  | own {word : String} {b : Build} (given : r.build = some word)
      (read : Build.ofText word = .ok b) : StartsFrom r s b
  | usual {word : String} {b : Build} (bare : r.build = none) (set : s.defaultBuild = some word)
      (read : Build.ofText word = .ok b) : StartsFrom r s b
  | plain (bare : r.build = none) (unset : s.defaultBuild = none) : StartsFrom r s Build.plain

/-- What adding the request to a build makes of it. -/
structure Added (r : Request) (b c : Build) : Prop where
  compiler : c.compiler = r.compiler.getD b.compiler
  optimised : c.optimised = true ↔ b.optimised = true ∨ r.optimised = true ∨ r.production = true
  profiling : c.profiling = true ↔ b.profiling = true ∨ r.profiling = true
  production : c.production = true ↔ b.production = true ∨ r.production = true
  dealii : c.usingDealii = true ↔ b.usingDealii = true ∨ r.dealii = true ∨ r.dealiiDebugging = true
  /-- No build to start from asks for the debugging libraries. -/
  dealiiDebugging : c.dealiiDebugging = true ↔ r.dealiiDebugging = true
  debug : c.debug = true ↔ b.debug = true ∨ r.debug = true
  /-- The last version asked for counts, and otherwise that of the build. -/
  preferences : ∀ library, c.preferences.find? library =
    (OrderedMap.lastBound? library r.preferences).or (b.preferences.find? library)
  tools : c.tools = b.tools

theorem baseBuild_eq_ok_iff {b : Build} : r.baseBuild s = .ok b ↔ r.StartsFrom s b := by
  unfold baseBuild Settings.build?
  constructor
  · intro done
    split at done
    case h_1 word given =>
      split at done
      case h_1 read =>
        cases done
        exact .own given read
      case h_2 => cases done
    case h_2 bare =>
      cases set : s.defaultBuild with
      | none =>
          rw [set] at done
          cases done
          exact .plain bare set
      | some word =>
          rw [set, Option.map_some] at done
          cases read : Build.ofText word with
          | ok c =>
              rw [read] at done
              cases done
              exact .usual bare set read
          | error e =>
              rw [read] at done
              cases done
  · intro starts
    cases starts with
    | own given read => simp only [given, read]
    | usual bare set read => simp only [bare, set, Option.map_some, read]
    | plain bare unset => simp only [bare, unset, Option.map_none]

/-- A build word that says production says optimised, and none speaks of debugging libraries. -/
theorem sound_of_ofText {word : String} {b : Build} (read : Build.ofText word = .ok b) :
    (b.production = true → b.optimised = true) ∧ b.dealiiDebugging = false := by
  rcases Build.read_eq_ok_iff.mp (Build.ofText_eq_ok_iff_read.mp read) with ⟨w, _, rfl⟩
  have means := w.denotes_build
  exact ⟨fun production => means.optimised.mpr (Or.inr (means.production.mp production)),
    means.dealiiDebugging⟩

theorem StartsFrom.sound {b : Build} (starts : r.StartsFrom s b) :
    (b.production = true → b.optimised = true) ∧ b.dealiiDebugging = false := by
  cases starts with
  | own _ read => exact sound_of_ofText read
  | usual _ _ read => exact sound_of_ofText read
  | plain _ _ => exact ⟨nofun, rfl⟩

/-! ## Adding to it -/

theorem added_addTo {b : Build} (undebugged : b.dealiiDebugging = false) :
    r.Added b (r.addTo b) := by
  constructor
  case preferences => exact fun library => OrderedMap.find?_insertAll _ _ library
  all_goals simp [addTo, undebugged, or_assoc]

/-- What is added is settled in every field. -/
theorem Added.eq {b c d : Build} (added : r.Added b c) (other : r.Added b d) : c = d := by
  have compiler := added.compiler.trans other.compiler.symm
  have optimised := Bool.eq_iff_iff.mpr (added.optimised.trans other.optimised.symm)
  have profiling := Bool.eq_iff_iff.mpr (added.profiling.trans other.profiling.symm)
  have production := Bool.eq_iff_iff.mpr (added.production.trans other.production.symm)
  have dealii := Bool.eq_iff_iff.mpr (added.dealii.trans other.dealii.symm)
  have debugging := Bool.eq_iff_iff.mpr (added.dealiiDebugging.trans other.dealiiDebugging.symm)
  have debug := Bool.eq_iff_iff.mpr (added.debug.trans other.debug.symm)
  have preferences : c.preferences = d.preferences :=
    OrderedMap.eq_of_find? (fun library =>
      (added.preferences library).trans (other.preferences library).symm)
  have tools := added.tools.trans other.tools.symm
  cases c
  cases d
  simp only [Build.mk.injEq]
  exact ⟨compiler, optimised, profiling, production, debug, dealii, debugging, preferences, tools⟩

theorem toBuild_eq_ok_iff {c : Build} :
    r.toBuild s = .ok c ↔ ∃ b, r.StartsFrom s b ∧ r.Added b c := by
  have mapped : r.toBuild s = .ok c ↔ ∃ b, r.baseBuild s = .ok b ∧ r.addTo b = c := by
    unfold toBuild
    cases r.baseBuild s with
    | ok b => simp [Except.map]
    | error e => simp [Except.map]
  rw [mapped]
  constructor
  · rintro ⟨b, base, rfl⟩
    have starts := baseBuild_eq_ok_iff.mp base
    exact ⟨b, starts, added_addTo starts.sound.2⟩
  · rintro ⟨b, starts, added⟩
    exact ⟨b, baseBuild_eq_ok_iff.mpr starts, (added_addTo starts.sound.2).eq added⟩

/-- What brings other flags along does so in the build that results, wherever it comes from. -/
theorem sound_of_added {b c : Build} (starts : r.StartsFrom s b) (added : r.Added b c) :
    (c.production = true → c.optimised = true) ∧
      (c.dealiiDebugging = true → c.usingDealii = true) := by
  constructor
  · intro production
    rcases added.production.mp production with before | asked
    · exact added.optimised.mpr (Or.inl (starts.sound.1 before))
    · exact added.optimised.mpr (Or.inr (Or.inr asked))
  · intro debugging
    exact added.dealii.mpr (Or.inr (Or.inr (added.dealiiDebugging.mp debugging)))

theorem Added.kept {b c : Build} (added : r.Added b c) {library : String}
    (asked : (b.preferences.find? library).isSome = true) :
    (c.preferences.find? library).isSome = true := by
  rw [added.preferences, Option.isSome_or, asked, Bool.or_true]

/-! ## A usual build that cannot be read -/

/-- A request with a build word does not look at the settings. -/
theorem toBuild_of_own (given : r.build ≠ none) (s s' : Settings) : r.toBuild s = r.toBuild s' := by
  unfold toBuild baseBuild
  cases own : r.build with
  | none => exact absurd own given
  | some word => rfl

/-- A usual build is found to be no build by exactly the requests that would use it. -/
theorem toBuild_eq_invalidDefaultBuild_iff {word : String} {e : Build.InvalidWord}
    (set : s.defaultBuild = some word) (unread : Build.ofText word = .error e) :
    r.toBuild s = .error (.invalidDefaultBuild e) ↔ r.build = none := by
  unfold toBuild baseBuild Settings.build?
  simp only [set, Option.map_some, unread]
  cases r.build with
  | none => exact iff_of_true rfl rfl
  | some own =>
      refine ⟨?_, nofun⟩
      intro failed
      cases read : Build.ofText own <;> simp only [read] at failed <;> cases failed

/-- Flags and versions are added to the build that a request starts from, and nothing is taken
away.  A usual build that cannot be read is a failure for exactly the requests that have no build
word; the others do not look at the settings. -/
theorem flags_only_add (r : Request) (s : Settings) :
    (∀ c, r.toBuild s = .ok c ↔ ∃ b, r.StartsFrom s b ∧ r.Added b c) ∧
      (∀ b c, r.StartsFrom s b → r.Added b c →
        (c.production = true → c.optimised = true) ∧
        (c.dealiiDebugging = true → c.usingDealii = true) ∧
        ∀ library, (b.preferences.find? library).isSome = true →
          (c.preferences.find? library).isSome = true) ∧
      ∀ word e, s.defaultBuild = some word → Build.ofText word = .error e →
        (r.toBuild s = .error (.invalidDefaultBuild e) ↔ r.build = none) ∧
        (r.build ≠ none → ∀ s', r.toBuild s = r.toBuild s') := by
  refine ⟨fun c => toBuild_eq_ok_iff, ?_, ?_⟩
  · intro b c starts added
    rcases sound_of_added starts added with ⟨production, debugging⟩
    exact ⟨production, debugging, fun _ asked => added.kept asked⟩
  · intro word e set unread
    exact ⟨toBuild_eq_invalidDefaultBuild_iff set unread, fun given s' => toBuild_of_own given s s'⟩

/-! A request over a word for production, in a project whose usual build is none. -/

def misspelt : Settings :=
  { Settings.none with defaultBuild := some "GccFast" }

theorem ofText_misspelt :
    Build.ofText "GccFast" = .error ⟨"GccFast", .unrecognised "Fast"⟩ := by
  have stuck : Build.modifiers ['F', 'a', 's', 't'] = .error (.unrecognised "Fast") := by
    rw [Build.modifiers]
    rfl
  have cut : Text.pieces '_' "GccFast" = ["GccFast"] := by decide
  have named : Build.leadingCompiler "GccFast".toList = (some .gcc, ['F', 'a', 's', 't']) := by
    decide
  unfold Build.ofText Build.read
  simp only [cut, named, stuck]
  rfl

def overWord : Request :=
  { Request.plain with
    build := some "IntelProduction_hostconfig,petsc=3-0"
    dealiiDebugging := true
    preferences := [("hdf5", "1.6"), ("hdf5", "1.8")] }

/-- With a word the misspelt build does no harm; the flags and versions come on top of the word. -/
theorem flags_only_add_production :
    ∃ b c, overWord.StartsFrom misspelt b ∧ overWord.toBuild misspelt = .ok c ∧
      overWord.toBuild misspelt = overWord.toBuild Settings.none ∧
      c.optimised = true ∧ c.usingDealii = true ∧ c.dealiiDebugging = true ∧ c.debug = false ∧
      (c.preferences.find? "petsc").isSome = true ∧ c.preferences.find? "hdf5" = some "1.8" ∧
      Request.plain.toBuild misspelt =
        .error (.invalidDefaultBuild ⟨"GccFast", .unrecognised "Fast"⟩) := by
  let w : Wording := ⟨some .intel, [.production], [("petsc", "3-0")]⟩
  have asked : Build.AsksFor "petsc=3-0" ("petsc", "3-0") := ⟨rfl, by decide⟩
  have spelled : Build.Spells "IntelProduction_hostconfig,petsc=3-0" w :=
    ⟨["hostconfig,petsc=3-0"], [w.requests], Text.parts_iff.mpr (by decide),
      .cons (.host (Text.parts_iff.mpr rfl) (.cons asked .nil)) .nil, rfl⟩
  have starts : overWord.StartsFrom misspelt w.build :=
    .own rfl ((Build.ofText_eq_ok_iff spelled).mpr w.denotes_build)
  have added : overWord.Added w.build (overWord.addTo w.build) := added_addTo rfl
  rcases flags_only_add overWord misspelt with ⟨adds, sound, own⟩
  rcases flags_only_add Request.plain misspelt with ⟨_, _, fails⟩
  rcases sound _ _ starts added with ⟨production, debugging, kept⟩
  refine ⟨w.build, _, starts, (adds _).mpr ⟨_, starts, added⟩,
    (own _ _ rfl ofText_misspelt).2 nofun _, ?_⟩
  exact ⟨production (by decide), debugging (by decide), by decide, by decide, kept _ (by decide),
    by decide, (fails _ _ rfl ofText_misspelt).1.mpr rfl⟩

end Request
end HostLink
