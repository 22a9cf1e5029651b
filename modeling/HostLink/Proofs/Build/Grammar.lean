import HostLink.Build.Compact
import HostLink.Proofs.Action
import HostLink.Proofs.OrderedMap
import HostLink.Proofs.Text.Pieces
import Mathlib.Data.List.Forall2

namespace HostLink
namespace Build

open Text (Parts)

/-!
# The grammar of build words

A build word is described here by what is written in it, and not by how it is read.  Its parts
at the underscores are a head and sections.  The head names a compiler or none and goes on with
modifiers; a section about the host lists libraries with versions, and every other section is
foreign and says nothing.

The reader takes the first modifier that fits and never goes back.  This loses no word of the
grammar, because no modifier is the beginning of another one and no compiler that of a modifier.
So a text is read exactly if it is spelled by the grammar, and the build that is read depends on
which modifiers occur, and not on their order or number.
-/

/-! ## What is written -/

/-- What a build word says, part by part. -/
structure Wording where
  compiler : Option Compiler
  modifiers : List Modifier
  /-- Libraries with their versions as they are written, in the order of reading. -/
  requests : List (String × String)

namespace Wording

/-- How the word starts, up to the first underscore. -/
def head (w : Wording) : String :=
  (w.compiler.map compilerWord).getD "" ++ String.join (w.modifiers.map Modifier.word)

end Wording

/-- An item asks for a version of a library, behind the first equals sign. -/
def AsksFor (item : String) (request : String × String) : Prop :=
  item = request.1 ++ "=" ++ request.2 ∧ '=' ∉ request.1.toList

/-- What a section asks for. -/
inductive SectionAsks (text : String) : List (String × String) → Prop
  /-- A section about the host asks for a version in every item that is not empty. -/
  | host {items : List String} {requests : List (String × String)}
      (parts : Parts ',' text ("hostconfig" :: items))
      (asked : List.Forall₂ AsksFor (items.filter (· ≠ "")) requests) : SectionAsks text requests
  /-- Any other section may say what it likes. -/
  | foreign {first : String} {items : List String} (parts : Parts ',' text (first :: items))
      (other : first ≠ "hostconfig") : SectionAsks text []

/-- The text is a build word that says all this. -/
def Spells (text : String) (w : Wording) : Prop :=
  ∃ sections requests, Parts '_' text (w.head :: sections) ∧
    List.Forall₂ SectionAsks sections requests ∧ w.requests = requests.flatten

/-! ## What is meant -/

namespace Wording

/-- A request as it is meant: in a version `-` may be written for `.`. -/
def meant (request : String × String) : String × String :=
  (request.1, Text.replaceChar '-' '.' request.2)

/-- The build that a wording stands for.  A production build is an optimised one, and of several
requests for a library the last one counts. -/
structure Denotes (w : Wording) (b : Build) : Prop where
  compiler : b.compiler = .intel ↔ w.compiler = some .intel
  production : b.production = true ↔ .production ∈ w.modifiers
  profiling : b.profiling = true ↔ .profiling ∈ w.modifiers
  optimised : b.optimised = true ↔ .optimised ∈ w.modifiers ∨ .production ∈ w.modifiers
  dealii : b.usingDealii = true ↔ .dealii ∈ w.modifiers
  debug : b.debug = true ↔ .debug ∈ w.modifiers
  dealiiDebugging : b.dealiiDebugging = false
  tools : b.tools = usualTools
  preferences : ∀ library, b.preferences.find? library =
    (OrderedMap.lastBound? library w.requests).map (Text.replaceChar '-' '.')

/-- Wordings that differ at most in the order and number of their modifiers, in requests that
do not count, and in whether they name the compiler that is used anyhow. -/
structure Agrees (w v : Wording) : Prop where
  compiler : w.compiler = some .intel ↔ v.compiler = some .intel
  modifiers : ∀ m, m ∈ w.modifiers ↔ m ∈ v.modifiers
  requests : ∀ library,
    OrderedMap.lastBound? library w.requests = OrderedMap.lastBound? library v.requests

/-- What is meant settles every field of a build. -/
theorem Denotes.eq {w v : Wording} {b c : Build} (means : w.Denotes b) (other : v.Denotes c)
    (agrees : w.Agrees v) : b = c := by
  have compiler : b.compiler = c.compiler := by
    have same := means.compiler.trans (agrees.compiler.trans other.compiler.symm)
    cases first : b.compiler <;> cases second : c.compiler <;> simp [first, second] at same ⊢
  have production : b.production = c.production := Bool.eq_iff_iff.mpr
    (means.production.trans ((agrees.modifiers _).trans other.production.symm))
  have profiling : b.profiling = c.profiling := Bool.eq_iff_iff.mpr
    (means.profiling.trans ((agrees.modifiers _).trans other.profiling.symm))
  have optimised : b.optimised = c.optimised := Bool.eq_iff_iff.mpr
    (means.optimised.trans
      ((or_congr (agrees.modifiers _) (agrees.modifiers _)).trans other.optimised.symm))
  have dealii : b.usingDealii = c.usingDealii := Bool.eq_iff_iff.mpr
    (means.dealii.trans ((agrees.modifiers _).trans other.dealii.symm))
  have debug : b.debug = c.debug := Bool.eq_iff_iff.mpr
    (means.debug.trans ((agrees.modifiers _).trans other.debug.symm))
  have preferences : b.preferences = c.preferences := by
    apply OrderedMap.eq_of_find?
    intro library
    rw [means.preferences, other.preferences, agrees.requests]
  have dealiiDebugging := means.dealiiDebugging.trans other.dealiiDebugging.symm
  have tools := means.tools.trans other.tools.symm
  cases b
  cases c
  simp only [Build.mk.injEq]
  exact ⟨compiler, optimised, profiling, production, debug, dealii, dealiiDebugging, preferences,
    tools⟩

theorem Agrees.refl (w : Wording) : w.Agrees w :=
  ⟨Iff.rfl, fun _ => Iff.rfl, fun _ => rfl⟩

/-- The build that the reader makes of a wording. -/
def build (w : Wording) : Build :=
  { w.modifiers.foldl Modifier.apply { plain with compiler := w.compiler.getD .gcc } with
    preferences := OrderedMap.ofList (w.requests.map meant) }

end Wording

/-- Modifiers only switch flags on. -/
theorem foldl_apply (ms : List Modifier) (b : Build) :
    ms.foldl Modifier.apply b = { b with
      production := b.production || decide (.production ∈ ms)
      profiling := b.profiling || decide (.profiling ∈ ms)
      optimised := b.optimised || decide (.optimised ∈ ms ∨ .production ∈ ms)
      usingDealii := b.usingDealii || decide (.dealii ∈ ms)
      debug := b.debug || decide (.debug ∈ ms) } := by
  induction ms generalizing b with
  | nil => simp
  | cons m ms inductionHypothesis =>
      rw [List.foldl_cons, inductionHypothesis]
      cases m <;> simp [Modifier.apply]

theorem lastBound?_meant (library : String) (requests : List (String × String)) :
    OrderedMap.lastBound? library (requests.map Wording.meant) =
      (OrderedMap.lastBound? library requests).map (Text.replaceChar '-' '.') := by
  induction requests with
  | nil => rfl
  | cons x requests inductionHypothesis =>
      rw [List.map_cons, OrderedMap.lastBound?_cons, OrderedMap.lastBound?_cons,
        inductionHypothesis]
      cases OrderedMap.lastBound? library requests with
      | some version => rfl
      | none => by_cases own : x.1 = library <;> simp [Wording.meant, own]

theorem Wording.denotes_build (w : Wording) : w.Denotes w.build := by
  unfold Wording.build
  rw [foldl_apply]
  constructor
  case compiler =>
    cases w.compiler with
    | none => simp
    | some c => simp
  case preferences =>
    intro library
    exact (OrderedMap.find?_ofList _ library).trans (lastBound?_meant library w.requests)
  all_goals simp [plain]

/-! ## The head -/

/-- The characters of modifiers that are written one after another. -/
def modifierText (ms : List Modifier) : List Char :=
  ms.flatMap (fun m => m.word.toList)

/-- The characters of a compiler that may be left out. -/
def compilerText (c : Option Compiler) : List Char :=
  ((c.map compilerWord).getD "").toList

theorem Wording.toList_head (w : Wording) :
    w.head.toList = compilerText w.compiler ++ modifierText w.modifiers := by
  rw [Wording.head, String.toList_append, String.toList_join, List.flatMap_map]
  rfl

/-- No modifier is the beginning of another one. -/
theorem Modifier.leading?_word (m : Modifier) (rest : List Char) :
    leading? (m.word.toList ++ rest) = some (m, rest) := by
  cases m <;> rfl

theorem modifiers_of_leading? {text rest : List Char} {m : Modifier}
    (leads : Modifier.leading? text = some (m, rest)) :
    modifiers text = (modifiers rest).map (m :: ·) := by
  cases text with
  | nil => cases leads
  | cons c text =>
      rw [modifiers]
      split
      case h_1 stuck =>
        rw [leads] at stuck
        cases stuck
      case h_2 found =>
        rw [leads] at found
        cases found
        rfl

/-- A text is taken apart into modifiers exactly if it is made of them. -/
theorem modifiers_eq_ok_iff {text : List Char} {ms : List Modifier} :
    modifiers text = .ok ms ↔ text = modifierText ms := by
  constructor
  · intro read
    induction text using modifiers.induct generalizing ms with
    | case1 =>
        rw [modifiers] at read
        cases read
        rfl
    | case2 c rest stuck =>
        rw [modifiers] at read
        split at read
        · cases read
        · rename_i found
          rw [stuck] at found
          cases found
    | case3 c rest m after leads inductionHypothesis =>
        rw [modifiers_of_leading? leads] at read
        cases later : modifiers after with
        | error fault =>
            rw [later] at read
            cases read
        | ok others =>
            rw [later] at read
            cases read
            rw [Modifier.eq_of_leading? leads, inductionHypothesis later]
            rfl
  · intro whole
    rw [whole]
    clear whole
    induction ms with
    | nil => rw [modifierText, List.flatMap_nil, modifiers]
    | cons m ms inductionHypothesis =>
        have front : modifierText (m :: ms) = m.word.toList ++ modifierText ms :=
          List.flatMap_cons
        rw [front, modifiers_of_leading? (m.leading?_word _), inductionHypothesis]
        rfl

theorem eq_of_leadingCompiler {text rest : List Char} {c : Option Compiler}
    (leads : leadingCompiler text = (c, rest)) : text = compilerText c ++ rest := by
  unfold leadingCompiler at leads
  split at leads
  case h_1 found =>
    cases leads
    exact Text.afterStart?_eq_some_iff.mp found
  case h_2 =>
    split at leads
    case h_1 found =>
      cases leads
      exact Text.afterStart?_eq_some_iff.mp found
    case h_2 =>
      cases leads
      rfl

/-- Modifiers do not begin like a compiler, so one that is left out is not found. -/
theorem leadingCompiler_compilerText (c : Option Compiler) (ms : List Modifier) :
    leadingCompiler (compilerText c ++ modifierText ms) = (c, modifierText ms) := by
  cases c with
  | some c => cases c <;> rfl
  | none =>
      cases ms with
      | nil => rfl
      | cons m ms => cases m <;> rfl

/-- The head of a word is read exactly if it is written so. -/
theorem head_iff {head : String} {c : Option Compiler} {ms : List Modifier} :
    (leadingCompiler head.toList).1 = c ∧ modifiers (leadingCompiler head.toList).2 = .ok ms ↔
      head.toList = compilerText c ++ modifierText ms := by
  constructor
  · rintro ⟨named, read⟩
    have whole : head.toList = compilerText (leadingCompiler head.toList).1 ++
        (leadingCompiler head.toList).2 := eq_of_leadingCompiler rfl
    rw [named, modifiers_eq_ok_iff.mp read] at whole
    exact whole
  · intro whole
    rw [whole, leadingCompiler_compilerText]
    exact ⟨rfl, modifiers_eq_ok_iff.mpr rfl⟩

/-! ## The sections -/

/-- A list is read exactly if each element is, where what is read is made of what is written. -/
theorem mapM_eq_ok_iff {α β γ ε : Type} {f : α → Except ε β} {written : α → γ → Prop}
    {meaning : γ → β} (reads : ∀ x y, f x = .ok y ↔ ∃ z, written x z ∧ y = meaning z)
    {xs : List α} {ys : List β} :
    xs.mapM f = .ok ys ↔ ∃ zs, List.Forall₂ written xs zs ∧ ys = zs.map meaning := by
  induction xs generalizing ys with
  | nil =>
      rw [List.mapM_nil]
      constructor
      · rintro ⟨⟩
        exact ⟨[], .nil, rfl⟩
      · rintro ⟨zs, matched, rfl⟩
        cases matched
        rfl
  | cons x xs inductionHypothesis =>
      simp only [List.mapM_cons, bind_eq_ok_iff, reads, inductionHypothesis]
      constructor
      · rintro ⟨_, ⟨z, one, rfl⟩, _, ⟨zs, others, rfl⟩, done⟩
        cases done
        exact ⟨z :: zs, .cons one others, rfl⟩
      · rintro ⟨zs, matched, rfl⟩
        cases matched with
        | cons one others => exact ⟨_, ⟨_, one, rfl⟩, _, ⟨_, others, rfl⟩, rfl⟩

theorem asksFor_iff {item library version : String} :
    AsksFor item (library, version) ↔ Text.cut? '=' item = some (library, version) := by
  have sign : "=" = String.singleton '=' := rfl
  rw [Text.cut?_eq_some_iff, ← sign]
  rfl

theorem preference_eq_ok_iff (item : String) (asked : String × String) :
    preference item = .ok asked ↔
      ∃ request, AsksFor item request ∧ asked = Wording.meant request := by
  unfold preference
  constructor
  · intro read
    split at read
    case h_1 => cases read
    case h_2 library version cut =>
      cases read
      exact ⟨(library, version), asksFor_iff.mpr cut, rfl⟩
  · rintro ⟨⟨library, version⟩, asks, rfl⟩
    rw [asksFor_iff.mp asks]
    rfl

theorem sectionPreferences_eq_ok_iff (text : String) (asked : List (String × String)) :
    sectionPreferences text = .ok asked ↔
      ∃ requests, SectionAsks text requests ∧ asked = requests.map Wording.meant := by
  constructor
  · intro read
    unfold sectionPreferences at read
    split at read
    case h_1 items cut =>
      rcases (mapM_eq_ok_iff preference_eq_ok_iff).mp read with ⟨requests, items, same⟩
      exact ⟨requests, .host (Text.parts_iff.mpr cut) items, same⟩
    case h_2 foreign =>
      cases read
      rcases List.exists_cons_of_ne_nil (Text.pieces_ne_nil ',' text) with ⟨first, items, cut⟩
      refine ⟨[], .foreign (Text.parts_iff.mpr cut) ?_, rfl⟩
      rintro rfl
      exact foreign items cut
  · rintro ⟨requests, asks, rfl⟩
    unfold sectionPreferences
    cases asks with
    | host parts items =>
        rw [Text.parts_iff.mp parts]
        exact (mapM_eq_ok_iff preference_eq_ok_iff).mpr ⟨requests, items, rfl⟩
    | foreign parts other =>
        rw [Text.parts_iff.mp parts]
        split
        case h_1 same =>
          cases same
          exact absurd rfl other
        case h_2 => rfl

/-! ## The word -/

/-- A text is read if its head and its sections are. -/
theorem read_eq_ok_iff_of_pieces {text head : String} {sections : List String} {b : Build}
    (cut : Text.pieces '_' text = head :: sections) :
    read text = .ok b ↔ ∃ ms asked, modifiers (leadingCompiler head.toList).2 = .ok ms ∧
      sections.mapM sectionPreferences = .ok asked ∧
      b = { ms.foldl Modifier.apply
          { plain with compiler := (leadingCompiler head.toList).1.getD .gcc } with
        preferences := OrderedMap.ofList asked.flatten } := by
  unfold read
  rw [cut]
  simp only [bind_eq_ok_iff]
  constructor
  · rintro ⟨ms, found, asked, said, done⟩
    cases done
    exact ⟨ms, asked, found, said, rfl⟩
  · rintro ⟨ms, asked, found, said, rfl⟩
    exact ⟨ms, found, asked, said, rfl⟩

/-- A text is read exactly if it is spelled by the grammar. -/
theorem read_eq_ok_iff {text : String} {b : Build} :
    read text = .ok b ↔ ∃ w, Spells text w ∧ b = w.build := by
  rcases List.exists_cons_of_ne_nil (Text.pieces_ne_nil '_' text) with ⟨head, sections, cut⟩
  rw [read_eq_ok_iff_of_pieces cut]
  constructor
  · rintro ⟨ms, asked, found, said, rfl⟩
    rcases (mapM_eq_ok_iff sectionPreferences_eq_ok_iff).mp said with ⟨requests, asks, rfl⟩
    let w : Wording := ⟨(leadingCompiler head.toList).1, ms, requests.flatten⟩
    have named : w.head = head := by
      apply String.toList_injective
      rw [w.toList_head]
      exact (head_iff.mp ⟨rfl, found⟩).symm
    refine ⟨w, ⟨sections, requests, ?_, asks, rfl⟩, ?_⟩
    · rw [named]
      exact Text.parts_iff.mpr cut
    · rw [← List.map_flatten]
      rfl
  · rintro ⟨w, ⟨sections', requests, parts, said, whole⟩, rfl⟩
    have same := cut.symm.trans (Text.parts_iff.mp parts)
    cases same
    rcases head_iff.mpr w.toList_head with ⟨named, found⟩
    refine ⟨w.modifiers, requests.map (List.map Wording.meant), found,
      (mapM_eq_ok_iff sectionPreferences_eq_ok_iff).mpr ⟨requests, said, rfl⟩, ?_⟩
    rw [Wording.build, whole, List.map_flatten, ← named]

theorem ofText_eq_ok_iff_read {text : String} {b : Build} :
    ofText text = .ok b ↔ read text = .ok b := by
  unfold ofText
  cases read text with
  | ok c => simp
  | error fault => simp

/-- A word that is spelled is read as what it means. -/
theorem ofText_eq_ok_iff {text : String} {w : Wording} {b : Build} (spelled : Spells text w) :
    ofText text = .ok b ↔ w.Denotes b := by
  have done : ofText text = .ok w.build :=
    ofText_eq_ok_iff_read.mpr (read_eq_ok_iff.mpr ⟨w, spelled, rfl⟩)
  constructor
  · intro read
    rw [done] at read
    cases read
    exact w.denotes_build
  · intro means
    rw [done, w.denotes_build.eq means (.refl w)]

/-- The words that are read are those of the grammar, each is read as what it means, and words
that mean the same are read as the same build. -/
theorem ofText_follows_grammar (text : String) :
    ((∃ b, ofText text = .ok b) ↔ ∃ w, Spells text w) ∧
      (∀ w b, Spells text w → (ofText text = .ok b ↔ w.Denotes b)) ∧
      ∀ other w v, Spells text w → Spells other v → w.Agrees v → ofText text = ofText other := by
  refine ⟨⟨?_, ?_⟩, ?_, ?_⟩
  · rintro ⟨b, done⟩
    rcases read_eq_ok_iff.mp (ofText_eq_ok_iff_read.mp done) with ⟨w, spelled, _⟩
    exact ⟨w, spelled⟩
  · rintro ⟨w, spelled⟩
    exact ⟨w.build, (ofText_eq_ok_iff spelled).mpr w.denotes_build⟩
  · intro w b spelled
    exact ofText_eq_ok_iff spelled
  · intro other w v spelled another agrees
    have same : w.build = v.build := w.denotes_build.eq v.denotes_build agrees
    rw [(ofText_eq_ok_iff spelled).mpr w.denotes_build,
      (ofText_eq_ok_iff another).mpr v.denotes_build, same]

/-- A word with a foreign section, an empty item and two requests for one library, and another
word for the same build. -/
theorem ofText_follows_grammar_production :
    ∃ b, ofText "IntelOptProduction_ndebug_hostconfig,petsc=3-0,,petsc=2-3" = .ok b ∧
      ofText "IntelProductionOptOpt_hostconfig,petsc=2-3" = .ok b ∧
      b.compiler = .intel ∧ b.preferences.find? "petsc" = some "2.3" := by
  let w : Wording :=
    ⟨some .intel, [.optimised, .production], [("petsc", "3-0"), ("petsc", "2-3")]⟩
  let v : Wording := ⟨some .intel, [.production, .optimised, .optimised], [("petsc", "2-3")]⟩
  have older : AsksFor "petsc=3-0" ("petsc", "3-0") := ⟨rfl, by decide⟩
  have newer : AsksFor "petsc=2-3" ("petsc", "2-3") := ⟨rfl, by decide⟩
  have spelled : Spells "IntelOptProduction_ndebug_hostconfig,petsc=3-0,,petsc=2-3" w :=
    ⟨["ndebug", "hostconfig,petsc=3-0,,petsc=2-3"], [[], w.requests],
      Text.parts_iff.mpr (by decide),
      .cons (.foreign (Text.parts_iff.mpr rfl) (by decide))
        (.cons (.host (Text.parts_iff.mpr rfl) (.cons older (.cons newer .nil))) .nil), rfl⟩
  have another : Spells "IntelProductionOptOpt_hostconfig,petsc=2-3" v :=
    ⟨["hostconfig,petsc=2-3"], [v.requests], Text.parts_iff.mpr (by decide),
      .cons (.host (Text.parts_iff.mpr rfl) (.cons newer .nil)) .nil, rfl⟩
  have agrees : w.Agrees v := by
    refine ⟨Iff.rfl, fun m => by cases m <;> decide, fun library => ?_⟩
    simp only [w, v, OrderedMap.lastBound?_cons]
    by_cases own : "petsc" = library <;> simp [own, OrderedMap.lastBound?]
  rcases ofText_follows_grammar "IntelOptProduction_ndebug_hostconfig,petsc=3-0,,petsc=2-3" with
    ⟨read, means, same⟩
  rcases read.mpr ⟨w, spelled⟩ with ⟨b, done⟩
  have denotes := (means w b spelled).mp done
  refine ⟨b, done, (same _ w v spelled another agrees).symm.trans done,
    denotes.compiler.mpr rfl, ?_⟩
  rw [denotes.preferences]
  rfl

end Build
end HostLink
