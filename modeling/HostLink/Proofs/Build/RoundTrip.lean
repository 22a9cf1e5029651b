import HostLink.Proofs.Build.Grammar

namespace HostLink
namespace Build

open Text (Parts)

/-!
# Writing a build and reading it back

The word of a build names its compiler, at most one modifier for the flavour, Deal.II, and the
versions asked for.  What is written is a wording of the grammar, so reading it back is a matter
of what that wording means.

The flags for the flavour do not all come back: of several only the decisive one is written.  The
flavour does, and so do the preferences, provided that no character in them ends a library, an
item or a section, and that no version holds the `-` that is read as a point.  Preferences that
were read from a word are always of this kind.
-/

/-- A preference that can stand in a word as it is. -/
structure Writable (preference : String × String) : Prop where
  library : '_' ∉ preference.1.toList ∧ ',' ∉ preference.1.toList ∧ '=' ∉ preference.1.toList
  version : '_' ∉ preference.2.toList ∧ ',' ∉ preference.2.toList ∧ '-' ∉ preference.2.toList

/-! ## What is written -/

/-- The modifiers that stand for a flavour. -/
def flavourModifiers : Flavour → List Modifier
  | .production => [.production]
  | .profiling => [.profiling]
  | .optimised => [.optimised]
  | .debug => []

/-- No flavour asks for Deal.II or for the configuration in the notes. -/
theorem notMem_flavourModifiers (own : Flavour) :
    .dealii ∉ flavourModifiers own ∧ .debug ∉ flavourModifiers own := by
  cases own <;> decide

/-- The modifiers in the word of a build. -/
def writtenModifiers (b : Build) : List Modifier :=
  flavourModifiers b.flavour ++ if b.usingDealii then [.dealii] else []

/-- The wording of a build. -/
def wording (b : Build) : Wording where
  compiler := some b.compiler
  modifiers := b.writtenModifiers
  requests := b.preferences.entries

theorem flavourWord_eq (b : Build) :
    b.flavourWord = String.join ((flavourModifiers b.flavour).map Modifier.word) := by
  unfold flavourWord flavour Flavour.ofFlags
  cases b.production <;> cases b.profiling <;> cases b.optimised <;> rfl

theorem head_wording (b : Build) :
    b.wording.head =
      compilerWord b.compiler ++ b.flavourWord ++ (if b.usingDealii then "Dealii" else "") := by
  have dealii : String.join ((if b.usingDealii then [Modifier.dealii] else []).map Modifier.word) =
      if b.usingDealii then "Dealii" else "" := by
    cases b.usingDealii <;> rfl
  rw [flavourWord_eq, ← dealii, String.append_assoc, ← String.join_append, ← List.map_append]
  rfl

/-- No head holds an underscore. -/
theorem underscore_notMem_head (w : Wording) : '_' ∉ w.head.toList := by
  rw [w.toList_head, List.mem_append]
  rintro (inside | inside)
  · revert inside
    cases w.compiler with
    | none => decide
    | some c => cases c <;> decide
  · rcases List.mem_flatMap.mp inside with ⟨m, _, inside⟩
    revert inside
    cases m <;> decide

/-! ## A head and one section -/

/-- Whatever is written in the second list stands for something in the first one. -/
theorem exists_of_forall₂ {α β : Type} {R : α → β → Prop} {xs : List α} {ys : List β} {y : β}
    (matched : List.Forall₂ R xs ys) (listed : y ∈ ys) : ∃ x ∈ xs, R x y := by
  induction matched with
  | nil => cases listed
  | cons first _ inductionHypothesis =>
      rcases List.mem_cons.mp listed with rfl | later
      · exact ⟨_, List.mem_cons_self, first⟩
      · rcases inductionHypothesis later with ⟨x, member, related⟩
        exact ⟨x, List.mem_cons_of_mem _ member, related⟩

theorem ne_empty_of_asksFor {text : String} {request : String × String}
    (asks : AsksFor text request) : text ≠ "" := by
  rintro rfl
  have sign : '=' ∈ (request.1 ++ "=" ++ request.2).toList := by simp
  rw [← asks.1] at sign
  cases sign

/-- A section about the host asks for what its items ask for. -/
theorem sectionAsks_joined {items : List String} {requests : List (String × String)}
    (asked : List.Forall₂ AsksFor items requests) (separate : ∀ text ∈ items, ',' ∉ text.toList) :
    SectionAsks (Text.joined "," ("hostconfig" :: items)) requests := by
  have filled : items.filter (· ≠ "") = items := by
    refine List.filter_eq_self.mpr ?_
    intro text listed
    rcases exists_of_forall₂ asked.flip listed with ⟨_, _, asks⟩
    exact decide_eq_true (ne_empty_of_asksFor asks)
  have parts : Parts ',' (Text.joined "," ("hostconfig" :: items)) ("hostconfig" :: items) :=
    ⟨rfl, List.cons_ne_nil _ _, List.forall_mem_cons.mpr ⟨by decide, separate⟩⟩
  refine .host parts ?_
  rw [filled]
  exact asked

theorem underscore_notMem_joined {items : List String}
    (separate : ∀ text ∈ items, '_' ∉ text.toList) :
    '_' ∉ (Text.joined "," ("hostconfig" :: items)).toList := by
  rw [Text.joined_cons, String.toList_append, String.toList_join, List.flatMap_map]
  simp only [List.mem_append, List.mem_flatMap, String.toList_append, not_or, not_exists, not_and]
  exact ⟨by decide, fun text listed => ⟨by decide, separate text listed⟩⟩

/-- A word with one section behind its head says what the two of them say. -/
theorem spells_of_section {w : Wording} {behind : String}
    (asks : SectionAsks behind w.requests) (whole : '_' ∉ behind.toList) :
    Spells (w.head ++ "_" ++ behind) w := by
  refine ⟨[behind], [w.requests], ⟨?_, List.cons_ne_nil _ _, ?_⟩, .cons asks .nil,
    List.flatten_singleton.symm⟩
  · rw [Text.joined_cons, String.append_assoc]
    simp
  · intro part listed
    rcases List.mem_cons.mp listed with rfl | listed
    · exact underscore_notMem_head w
    · rw [List.mem_singleton.mp listed]
      exact whole

/-! ## The word of a build -/

/-- A preference as an item. -/
def item (preference : String × String) : String :=
  preference.1 ++ "=" ++ preference.2

theorem notMem_item {preference : String × String} (writable : Writable preference) :
    '_' ∉ (item preference).toList ∧ ',' ∉ (item preference).toList := by
  rcases writable with ⟨⟨underscore, comma, _⟩, underscore', comma', _⟩
  simp [item, underscore, comma, underscore', comma']

/-- The section that lists preferences. -/
def hostSection (preferences : List (String × String)) : String :=
  Text.joined "," ("hostconfig" :: preferences.map item)

theorem text_eq (b : Build) :
    b.text =
      if b.preferences.isEmpty then b.wording.head
      else b.wording.head ++ "_" ++ hostSection b.preferences.entries := by
  have listed : ∀ preferences : List (String × String),
      String.join (preferences.map (fun x => "," ++ x.1 ++ "=" ++ x.2)) =
        String.join ((preferences.map item).map ("," ++ ·)) := by
    intro preferences
    rw [List.map_map]
    refine congrArg String.join (List.map_congr_left ?_)
    intro x _
    simp only [Function.comp, item, String.append_assoc]
  have start : "_hostconfig" = "_" ++ "hostconfig" := rfl
  rw [head_wording]
  unfold text
  by_cases vacant : b.preferences.isEmpty = true
  · rw [if_pos vacant, if_pos vacant, String.append_empty]
  · rw [if_neg vacant, if_neg vacant, listed, hostSection, Text.joined_cons, start]
    simp only [String.append_assoc]

theorem underscore_notMem_hostSection {preferences : List (String × String)}
    (writable : ∀ x ∈ preferences, Writable x) : '_' ∉ (hostSection preferences).toList := by
  refine underscore_notMem_joined ?_
  intro text listed
  rcases List.mem_map.mp listed with ⟨x, own, rfl⟩
  exact (notMem_item (writable x own)).1

theorem sectionAsks_hostSection {preferences : List (String × String)}
    (writable : ∀ x ∈ preferences, Writable x) :
    SectionAsks (hostSection preferences) preferences := by
  refine sectionAsks_joined ?_ ?_
  · rw [List.forall₂_map_left_iff, List.forall₂_same]
    intro x own
    exact ⟨rfl, (writable x own).library.2.2⟩
  · intro text listed
    rcases List.mem_map.mp listed with ⟨x, own, rfl⟩
    exact (notMem_item (writable x own)).2

/-- The word of a build says what its wording says. -/
theorem spells_text {b : Build} (writable : ∀ x ∈ b.preferences.entries, Writable x) :
    Spells b.text b.wording := by
  rw [text_eq]
  by_cases vacant : b.preferences.isEmpty = true
  · have none : b.preferences.entries = [] := List.isEmpty_iff.mp vacant
    rw [if_pos vacant]
    refine ⟨[], [], Text.parts_iff.mpr ?_, .nil, none⟩
    exact Text.pieces_of_notMem (underscore_notMem_head b.wording)
  · rw [if_neg vacant]
    exact spells_of_section (sectionAsks_hostSection writable)
      (underscore_notMem_hostSection writable)

/-! ## What comes back -/

theorem compiler_of_denotes {b c : Build} (means : b.wording.Denotes c) :
    c.compiler = b.compiler := by
  have intel := means.compiler
  simp only [wording, Option.some.injEq] at intel
  cases own : b.compiler <;> cases other : c.compiler <;> simp [own, other] at intel ⊢

/-- A modifier is written for the flavour or for Deal.II. -/
theorem mem_modifiers_wording {b : Build} {m : Modifier} :
    m ∈ b.wording.modifiers ↔
      m ∈ flavourModifiers b.flavour ∨ (b.usingDealii = true ∧ m = .dealii) := by
  simp [wording, writtenModifiers]

/-- The modifier for a flavour sets the flags of that flavour. -/
theorem flavour_of_denotes {b c : Build} (means : b.wording.Denotes c) :
    c.flavour = b.flavour := by
  have production := means.production
  have profiling := means.profiling
  have optimised := means.optimised
  simp only [mem_modifiers_wording] at production profiling optimised
  unfold flavour at production profiling optimised ⊢
  -- Of the flags that were written only their flavour is left, so its values are the cases.
  generalize Flavour.ofFlags b.optimised b.profiling b.production = own at *
  unfold Flavour.ofFlags
  cases own <;> simp_all [flavourModifiers]

theorem dealii_of_denotes {b c : Build} (means : b.wording.Denotes c) :
    c.usingDealii = b.usingDealii := by
  have dealii := means.dealii
  simp only [mem_modifiers_wording, notMem_flavourModifiers, false_or, and_true] at dealii
  exact Bool.eq_iff_iff.mpr dealii

theorem debug_of_denotes {b c : Build} (means : b.wording.Denotes c) : c.debug = false := by
  have debug := means.debug
  simpa [mem_modifiers_wording, notMem_flavourModifiers] using debug

theorem preferences_of_denotes {b c : Build} (writable : ∀ x ∈ b.preferences.entries, Writable x)
    (means : b.wording.Denotes c) : c.preferences = b.preferences := by
  apply OrderedMap.eq_of_find?
  intro library
  have listed : OrderedMap.lastBound? library b.preferences.entries =
      b.preferences.find? library := by
    rw [← OrderedMap.find?_ofList, OrderedMap.ofList_entries]
  rw [means.preferences]
  change (OrderedMap.lastBound? library b.preferences.entries).map _ = _
  rw [listed]
  cases found : b.preferences.find? library with
  | none => rfl
  | some version =>
      have own := writable _ ((OrderedMap.find?_eq_some_iff _).mp found)
      rw [Option.map_some, Text.replaceChar_of_notMem own.version.2.2]

/-- The word of a build shows its flavour and not its flags. -/
theorem text_congr {b c : Build} (compiler : c.compiler = b.compiler)
    (flavour : c.flavour = b.flavour) (dealii : c.usingDealii = b.usingDealii)
    (preferences : c.preferences = b.preferences) : c.text = b.text := by
  unfold text
  rw [flavourWord_eq, flavourWord_eq, compiler, flavour, dealii, preferences]

/-! ## What was read before -/

/-- Every request in a word is an item, and no separator stands in an item. -/
theorem separators_of_spells {text : String} {w : Wording} {request : String × String}
    (spelled : Spells text w) (requested : request ∈ w.requests) :
    ('_' ∉ request.1.toList ∧ ',' ∉ request.1.toList ∧ '=' ∉ request.1.toList) ∧
      '_' ∉ request.2.toList ∧ ',' ∉ request.2.toList := by
  rcases spelled with ⟨sections, requests, parts, said, whole⟩
  rw [whole] at requested
  rcases List.mem_flatten.mp requested with ⟨own, listed, inside⟩
  rcases exists_of_forall₂ said listed with ⟨words, written, asks⟩
  have underscore := parts.separate words (List.mem_cons_of_mem _ written)
  cases asks with
  | foreign => cases inside
  | host items asked =>
      rcases exists_of_forall₂ asked inside with ⟨item, kept, rfl, equals⟩
      have listed := List.mem_cons_of_mem "hostconfig" (List.mem_of_mem_filter kept)
      have comma := items.separate _ listed
      have absent := mt (items.mem_of_mem listed) underscore
      simp only [String.toList_append, List.mem_append, not_or] at comma absent
      exact ⟨⟨absent.1.1, comma.1.1, equals⟩, absent.2, comma.2⟩

/-- Preferences that were read can be written. -/
theorem writable_of_ofText {text : String} {b : Build} (read : ofText text = .ok b) :
    ∀ x ∈ b.preferences.entries, Writable x := by
  rintro ⟨library, version⟩ listed
  rcases read_eq_ok_iff.mp (ofText_eq_ok_iff_read.mp read) with ⟨w, spelled, rfl⟩
  have found := (OrderedMap.find?_eq_some_iff _).mpr listed
  rw [w.denotes_build.preferences, Option.map_eq_some_iff] at found
  rcases found with ⟨asked, bound, rfl⟩
  rcases separators_of_spells spelled (OrderedMap.mem_of_lastBound? bound) with
    ⟨own, underscore, comma⟩
  exact ⟨own, Text.notMem_replaceChar underscore (by decide),
    Text.notMem_replaceChar comma (by decide), Text.old_notMem_replaceChar _ (by decide)⟩

/-! ## Round trips -/

/-- What the word of a build is read as: the build, up to flags that a word does not show. -/
structure ReadBack (b c : Build) : Prop where
  read : ofText b.text = .ok c
  compiler : c.compiler = b.compiler
  flavour : c.flavour = b.flavour
  dealii : c.usingDealii = b.usingDealii
  preferences : c.preferences = b.preferences
  debug : c.debug = false
  dealiiDebugging : c.dealiiDebugging = false
  tools : c.tools = usualTools
  text : c.text = b.text

theorem readBack_wording {b : Build} (writable : ∀ x ∈ b.preferences.entries, Writable x) :
    ReadBack b b.wording.build := by
  have means := b.wording.denotes_build
  have compiler := compiler_of_denotes means
  have flavour := flavour_of_denotes means
  have dealii := dealii_of_denotes means
  have preferences := preferences_of_denotes writable means
  exact {
    read := (ofText_eq_ok_iff (spells_text writable)).mpr means
    compiler, flavour, dealii, preferences
    debug := debug_of_denotes means
    dealiiDebugging := means.dealiiDebugging
    tools := means.tools
    text := text_congr compiler flavour dealii preferences }

/-- The word of a build is read back, and what is read has the same word.  So reading any word
and writing the build gives a word that stays the same when this is done again. -/
theorem ofText_text_round_trip :
    (∀ b : Build, (∀ x ∈ b.preferences.entries, Writable x) → ∃ c, ReadBack b c) ∧
      ∀ text b, ofText text = .ok b →
        (∀ x ∈ b.preferences.entries, Writable x) ∧ ∃ c, ReadBack b c := by
  refine ⟨fun b writable => ⟨_, readBack_wording writable⟩, ?_⟩
  intro text b read
  have writable := writable_of_ofText read
  exact ⟨writable, _, readBack_wording writable⟩

/-- A profiling build that is also an optimised one, which its word does not show. -/
theorem ofText_text_round_trip_profiling :
    ∃ b c : Build, b.text = "IntelProfile_hostconfig,boost=1.37,petsc=3.0" ∧
      b.optimised = true ∧ (∀ x ∈ b.preferences.entries, Writable x) ∧ ReadBack b c ∧
      ∀ x ∈ c.preferences.entries, Writable x := by
  let b : Build := { plain with
    compiler := .intel
    optimised := true
    profiling := true
    preferences := OrderedMap.ofList [("petsc", "3.0"), ("boost", "1.37")] }
  have entries : b.preferences.entries = [("boost", "1.37"), ("petsc", "3.0")] := by decide
  have writable : ∀ x ∈ b.preferences.entries, Writable x := by
    rw [entries]
    simp only [List.forall_mem_cons]
    exact ⟨⟨by decide, by decide⟩, ⟨by decide, by decide⟩, by simp⟩
  rcases ofText_text_round_trip with ⟨back, again⟩
  rcases back b writable with ⟨c, found⟩
  exact ⟨b, c, by decide, rfl, writable, found, (again b.text c found.read).1⟩

end Build
end HostLink
