import HostLink.Proofs.Project.Request

namespace HostLink
namespace Request

open Build (Modifier Wording)

/-!
# A request as a build word

What the flags of a request ask for can be said in a build word as well: the name of the
compiler, a modifier for each flag, and a section that lists the preferences as they are given.
The two are read in different ways.  The flags are added to the plain build one by one, and the
word is cut at three kinds of separators.  Both come to the same build, except that a version in
the word may have `-` for `.`, and a version in a preference is taken as it is.
-/

variable {r : Request} {s : Settings}

/-- Whether a request asks for what a modifier asks for. -/
def asksFor (r : Request) : Modifier → Bool
  | .production => r.production
  | .profiling => r.profiling
  | .optimised => r.optimised
  | .dealii => r.dealii
  | .debug => r.debug

/-- A build word with the compiler of a request, with modifiers and with preferences. -/
def word (r : Request) (ms : List Modifier) (texts : List String) : String :=
  (r.compiler.map Build.compilerWord).getD "" ++ String.join (ms.map Modifier.word) ++
    "_hostconfig" ++ String.join (texts.map ("," ++ ·))

/-- The request that gives a build word and nothing else. -/
def ofWord (word : String) : Request :=
  { plain with build := some word }

/-! ## Preferences -/

theorem preferenceOf_eq_ok_iff {text : String} {asked : String × String} :
    preferenceOf text = .ok asked ↔
      Build.AsksFor text asked ∧ asked.1 ≠ "" ∧ asked.2 ≠ "" := by
  rcases asked with ⟨library, version⟩
  rw [Build.asksFor_iff]
  unfold preferenceOf
  constructor
  · intro read
    split at read
    case h_1 own wanted cut =>
      split at read
      case isTrue => cases read
      case isFalse filled =>
        cases read
        exact ⟨cut, not_or.mp filled⟩
    case h_2 => cases read
  · rintro ⟨cut, filled⟩
    rw [cut]
    exact if_neg (not_or.mpr filled)

/-! ## The word says what the request says -/

/-- What the word of a request says. -/
def wording (r : Request) (ms : List Modifier) : Wording :=
  ⟨r.compiler, ms, r.preferences⟩

theorem spells_word {ms : List Modifier} {texts : List String}
    (read : List.Forall₂ (fun text x => preferenceOf text = .ok x) texts r.preferences)
    (separate : ∀ text ∈ texts, '_' ∉ text.toList ∧ ',' ∉ text.toList) :
    Build.Spells (r.word ms texts) (r.wording ms) := by
  have asked : List.Forall₂ Build.AsksFor texts r.preferences :=
    read.imp (fun _ _ own => (preferenceOf_eq_ok_iff.mp own).1)
  have asks := Build.sectionAsks_joined asked (fun text listed => (separate text listed).2)
  have whole := Build.underscore_notMem_joined (fun text listed => (separate text listed).1)
  have written : r.word ms texts =
      (r.wording ms).head ++ "_" ++ Text.joined "," ("hostconfig" :: texts) := by
    have start : "_hostconfig" = "_" ++ "hostconfig" := rfl
    rw [Text.joined_cons, word, start]
    simp only [Wording.head, wording, String.append_assoc]
  rw [written]
  exact Build.spells_of_section asks whole

/-- A build with the flags of a request and with the versions of its word is what the word
means. -/
theorem denotes_wording {ms : List Modifier} (same : ∀ m, m ∈ ms ↔ r.asksFor m = true)
    (undebugged : r.dealiiDebugging = false) {asked : Preferences}
    (meant : ∀ library, asked.find? library =
      (OrderedMap.lastBound? library r.preferences).map (Text.replaceChar '-' '.')) :
    (r.wording ms).Denotes { r.addTo Build.plain with preferences := asked } where
  compiler := by
    cases named : r.compiler <;> simp [wording, addTo, named, Build.plain]
  production := by simp [wording, addTo, same, asksFor, Build.plain]
  profiling := by simp [wording, addTo, same, asksFor, Build.plain]
  optimised := by simp [wording, addTo, same, asksFor, Build.plain]
  dealii := by simp [wording, addTo, same, asksFor, Build.plain, undebugged]
  debug := by simp [wording, addTo, same, asksFor, Build.plain]
  dealiiDebugging := by simp [addTo, Build.plain, undebugged]
  tools := rfl
  preferences := meant

theorem toBuild_ofWord {ms : List Modifier} {texts : List String} {c : Build}
    (read : List.Forall₂ (fun text x => preferenceOf text = .ok x) texts r.preferences)
    (separate : ∀ text ∈ texts, '_' ∉ text.toList ∧ ',' ∉ text.toList)
    (means : (r.wording ms).Denotes c) : (ofWord (r.word ms texts)).toBuild s = .ok c := by
  have found := (Build.ofText_eq_ok_iff (spells_word read separate)).mpr means
  have starts : (ofWord (r.word ms texts)).StartsFrom s c := .own rfl found
  have nothing : (ofWord (r.word ms texts)).addTo c = c := by
    simp [addTo, ofWord, plain, OrderedMap.insertAll]
  have added := added_addTo (r := ofWord (r.word ms texts)) starts.sound.2
  rw [nothing] at added
  exact toBuild_eq_ok_iff.mpr ⟨c, starts, added⟩

/-- A version stays as it is exactly if there is no `-` in it. -/
theorem replaceChar_eq_self_iff {version : String} :
    Text.replaceChar '-' '.' version = version ↔ '-' ∉ version.toList := by
  refine ⟨?_, Text.replaceChar_of_notMem⟩
  intro same
  rw [← same]
  exact Text.old_notMem_replaceChar version (by decide)

/-- A request by flags and the request with the word for it ask for the same build, up to the
`-` in versions that the word takes for `.`.  The modifiers may stand in any order. -/
theorem toBuild_word_agrees (bare : r.build = none) (unset : s.defaultBuild = none)
    (undebugged : r.dealiiDebugging = false) {ms : List Modifier}
    (same : ∀ m, m ∈ ms ↔ r.asksFor m = true) {texts : List String}
    (read : List.Forall₂ (fun text x => preferenceOf text = .ok x) texts r.preferences)
    (separate : ∀ text ∈ texts, '_' ∉ text.toList ∧ ',' ∉ text.toList) :
    ∃ b c, r.toBuild s = .ok b ∧ (ofWord (r.word ms texts)).toBuild s = .ok c ∧
      c = { b with preferences := c.preferences } ∧
      (∀ library, c.preferences.find? library =
        (b.preferences.find? library).map (Text.replaceChar '-' '.')) ∧
      (c = b ↔ ∀ library version, OrderedMap.lastBound? library r.preferences = some version →
        '-' ∉ version.toList) := by
  let asked : Preferences := OrderedMap.ofList (r.preferences.map Wording.meant)
  have meant : ∀ library, asked.find? library =
      (OrderedMap.lastBound? library r.preferences).map (Text.replaceChar '-' '.') :=
    fun library => (OrderedMap.find?_ofList _ library).trans (Build.lastBound?_meant library _)
  have given : ∀ library, (r.addTo Build.plain).preferences.find? library =
      OrderedMap.lastBound? library r.preferences :=
    fun library => OrderedMap.find?_ofList r.preferences library
  have added : r.Added Build.plain (r.addTo Build.plain) := added_addTo rfl
  have means := denotes_wording same undebugged meant
  refine ⟨r.addTo Build.plain, { r.addTo Build.plain with preferences := asked },
    toBuild_eq_ok_iff.mpr ⟨_, .plain bare unset, added⟩, toBuild_ofWord read separate means,
    rfl, fun library => by rw [given]; exact meant library, ?_⟩
  constructor
  · intro equal library version bound
    have kept := congrArg (fun b : Build => b.preferences.find? library) equal
    simp only [meant, given, bound, Option.map_some, Option.some.injEq] at kept
    exact replaceChar_eq_self_iff.mp kept
  · intro pointed
    have kept : asked = (r.addTo Build.plain).preferences := by
      apply OrderedMap.eq_of_find?
      intro library
      rw [meant, given]
      cases bound : OrderedMap.lastBound? library r.preferences with
      | none => rfl
      | some version => exact congrArg some (replaceChar_eq_self_iff.mpr (pointed _ _ bound))
    rw [kept]

/-- A request with all flags, for a library twice and for a version with `=` in it. -/
def byFlags : Request :=
  { plain with
    compiler := some .intel
    optimised := true
    production := true
    debug := true
    preferences := [("petsc", "2-3"), ("hdf5", "1=8"), ("petsc", "3-0")] }

/-- In the word `petsc` is asked for as `3.0`, and by the flags as `3-0`. -/
theorem toBuild_word_agrees_intel :
    ∃ b c, byFlags.toBuild Settings.none = .ok b ∧
      (ofWord "IntelDebugOptProduction_hostconfig,petsc=2-3,hdf5=1=8,petsc=3-0").toBuild
        Settings.none = .ok c ∧
      c = { b with preferences := c.preferences } ∧ c ≠ b ∧
      b.preferences.find? "petsc" = some "3-0" ∧ c.preferences.find? "petsc" = some "3.0" := by
  have read : List.Forall₂ (fun text x => preferenceOf text = .ok x)
      ["petsc=2-3", "hdf5=1=8", "petsc=3-0"] byFlags.preferences :=
    .cons rfl (.cons rfl (.cons rfl .nil))
  have same : ∀ m, m ∈ [Modifier.debug, .optimised, .production] ↔ byFlags.asksFor m = true := by
    intro m
    cases m <;> decide
  have separate : ∀ text ∈ ["petsc=2-3", "hdf5=1=8", "petsc=3-0"],
      '_' ∉ text.toList ∧ ',' ∉ text.toList := by decide
  rcases toBuild_word_agrees (s := Settings.none) rfl rfl rfl same read separate with
    ⟨b, c, flags, worded, agree, versions, equal⟩
  have asked : b.preferences.find? "petsc" = some "3-0" := by
    cases flags
    rfl
  refine ⟨b, c, flags, worded, agree, ?_, asked, ?_⟩
  · intro same
    exact equal.mp same "petsc" "3-0" rfl (by decide)
  · rw [versions, asked]
    rfl

end Request
end HostLink
