import HostLink.Glob.Expansion
import HostLink.Proofs.Action
import HostLink.Proofs.FileTree

namespace HostLink

/-!
# Patterns that are literal up to the last slash

A directory whose text holds no special character, and which is written as its steps are
written, can be searched by a pattern behind it: every component before the last is plain, so
the search walks to the directory itself and finds the names that it lists.  A slash at the
end does no harm.  For other directories this fails.  A bracket in the text may leave the
pattern unreadable, and where a segment inside the text makes no move the paths that are found
are written in another way.
-/

namespace Glob

/-- The characters that a pattern does not take for themselves. -/
def isSpecial (c : Char) : Bool :=
  c == '?' || c == '*' || c == '['

/-! ## Tokens of plain text -/

theorem tokensFrom_cons_of_plain {c : Char} (plain : isSpecial c = false) (position : Nat)
    (previous : Option Char) (rest : List Char) :
    tokensFrom position previous (c :: rest) =
      (tokensFrom (position + 1) (some c) rest).map (Token.exactly c :: ·) := by
  simp only [isSpecial, Bool.or_eq_false_iff, beq_eq_false_iff_ne] at plain
  rcases plain with ⟨⟨notOne, notSequence⟩, notClass⟩
  -- The last equation of the reader; its side goals exclude the earlier ones, each of which
  -- asks for a special character in front.
  rw [tokensFrom]
  · rfl
  · exact notOne
  · intro _ star _
    exact notSequence star
  · intro star _
    exact notSequence star
  · intro _ _ star _
    exact notSequence star
  · exact notSequence
  · exact notClass

theorem tokensFrom_append {text : List Char} (plain : ∀ c ∈ text, isSpecial c = false)
    (rest : List Char) (position : Nat) (previous : Option Char) :
    ∃ previous', tokensFrom position previous (text ++ rest) =
      (tokensFrom (position + text.length) previous' rest).map (text.map Token.exactly ++ ·) := by
  induction text generalizing position previous with
  | nil =>
      refine ⟨previous, ?_⟩
      rw [List.nil_append, List.length_nil, Nat.add_zero]
      cases tokensFrom position previous rest with
      | error fault => rfl
      | ok tokens => rfl
  | cons c text inductionHypothesis =>
      have others : ∀ d ∈ text, isSpecial d = false :=
        fun d inside => plain d (List.mem_cons_of_mem _ inside)
      have behind : position + (c :: text).length = position + 1 + text.length := by
        rw [List.length_cons]
        omega
      rcases inductionHypothesis others (position + 1) (some c) with ⟨previous', read⟩
      refine ⟨previous', ?_⟩
      rw [List.cons_append, tokensFrom_cons_of_plain (plain c List.mem_cons_self), read, behind]
      cases tokensFrom (position + 1 + text.length) previous' rest with
      | error fault => rfl
      | ok tokens => rfl

theorem tokensFrom_plain {text : List Char} (plain : ∀ c ∈ text, isSpecial c = false)
    (position : Nat) (previous : Option Char) :
    tokensFrom position previous text = .ok (text.map Token.exactly) := by
  rcases tokensFrom_append plain [] position previous with ⟨previous', read⟩
  rw [List.append_nil] at read
  rw [read, tokensFrom]
  simp [Except.map]

/-- A star before plain text is a wildcard of its own. -/
theorem tokensFrom_star {ending : List Char} (plain : ∀ c ∈ ending, isSpecial c = false)
    (position : Nat) (previous : Option Char) :
    tokensFrom position previous ('*' :: ending) =
      .ok (Token.anySequence :: ending.map Token.exactly) := by
  have single : ∀ rest, ending = '*' :: rest → False := by
    intro rest same
    have special := plain '*' (same ▸ List.mem_cons_self)
    cases special
  rw [tokensFrom]
  · rw [tokensFrom_plain plain]
    rfl
  · intro rest same
    exact single _ same
  · intro same
    exact single _ same
  · intro _ _ same
    exact single _ same

theorem closed_of_readClass {inner : List Char} {found : Bool × List Char × List Char}
    (read : readClass inner = some found) : ']' ∈ inner := by
  have closed : ∀ others : List Char, (Text.cutAt ']' others).isSome = true → ']' ∈ others := by
    intro others cut
    apply Decidable.byContradiction
    intro absent
    rw [Text.cutAt_eq_none_iff.mpr absent] at cut
    cases cut
  simp only [readClass] at read
  split at read
  · cases read
  · rename_i first others body
    rcases Option.map_eq_some_iff.mp read with ⟨parts, cut, _⟩
    have inside := closed others (by rw [cut]; rfl)
    split at body
    · cases body
      exact List.mem_cons_of_mem _ (List.mem_cons_of_mem _ inside)
    · cases body
      exact List.mem_cons_of_mem _ inside

/-- A bracket without a closing one behind it is a fault at its place. -/
theorem tokens_of_bracket {front inner : List Char} (plain : ∀ c ∈ front, isSpecial c = false)
    (opened : ']' ∉ inner) {pattern : String} (whole : pattern.toList = front ++ '[' :: inner) :
    tokens pattern = .error ⟨front.length, .openClass⟩ := by
  have noClass : readClass inner = none := by
    cases read : readClass inner with
    | none => rfl
    | some found => exact absurd (closed_of_readClass read) opened
  have refused : ∀ previous, tokensFrom front.length previous ('[' :: inner) =
      .error ⟨front.length, .openClass⟩ := by
    intro previous
    rw [tokensFrom]
    split
    · rfl
    · rename_i found
      rw [noClass] at found
      cases found
  rcases tokensFrom_append plain ('[' :: inner) 0 none with ⟨previous, read⟩
  unfold tokens
  rw [whole, read, Nat.zero_add, refused]
  rfl

/-! ## Reading a pattern component by component -/

/-- A component that is taken as it stands. -/
structure IsPlain (text : String) : Prop where
  single : '/' ∉ text.toList
  moves : Path.isIdle text = false
  plain : ∀ c ∈ text.toList, isSpecial c = false

theorem IsPlain.named {text : String} (plain : IsPlain text) : text ≠ "" := by
  rintro rfl
  cases plain.moves

theorem IsPlain.opened {text : String} (plain : IsPlain text) :
    Text.endsWith "/" text = false := by
  apply Bool.eq_false_iff.mpr
  intro closed
  rcases List.isSuffixOf_iff_suffix.mp closed with ⟨front, whole⟩
  apply plain.single
  rw [← whole]
  exact List.mem_append_right _ List.mem_cons_self

theorem plainText?_map (text : List Char) :
    Component.plainText? (text.map Token.exactly) = some text := by
  induction text with
  | nil => rfl
  | cons c text inductionHypothesis =>
      rw [List.map_cons, Component.plainText?, inductionHypothesis]
      rfl

theorem anyDepth_notMem_map (text : List Char) : Token.anyDepth ∉ text.map Token.exactly := by
  intro listed
  rcases List.mem_map.mp listed with ⟨c, _, impossible⟩
  cases impossible

theorem ofTokens_plain (text : String) :
    Component.ofTokens (text.toList.map Token.exactly) = .plain text := by
  unfold Component.ofTokens
  rw [if_neg, plainText?_map]
  · simp only [String.ofList_toList]
  · rw [List.contains_iff_mem]
    exact anyDepth_notMem_map text.toList

/-- The tokens of a star and an ending. -/
def wildcard (ending : String) : List Token :=
  .anySequence :: ending.toList.map Token.exactly

theorem ofTokens_wildcard (ending : String) :
    Component.ofTokens (wildcard ending) = .wild (wildcard ending) := by
  unfold Component.ofTokens wildcard
  rw [if_neg]
  · rfl
  · rw [List.contains_iff_mem]
    intro listed
    rcases List.mem_cons.mp listed with impossible | later
    · cases impossible
    · exact anyDepth_notMem_map _ later

theorem collapsed_of_noDepth {components : List Component}
    (noDepth : Component.anyDepth ∉ components) :
    Component.collapsed components = components := by
  induction components with
  | nil => rfl
  | cons component rest inductionHypothesis =>
      have other : component ≠ .anyDepth := fun same => noDepth (same ▸ List.mem_cons_self)
      have later := inductionHypothesis (fun inside => noDepth (List.mem_cons_of_mem _ inside))
      rw [Component.collapsed, later]
      intro _ same
      exact absurd same other

theorem mapM_of_ok {α β ε : Type} {f : α → Except ε β} {g : α → β} {all : List α}
    (ok : ∀ a ∈ all, f a = .ok (g a)) : all.mapM f = .ok (all.map g) := by
  induction all with
  | nil => rfl
  | cons a all inductionHypothesis =>
      have later := inductionHypothesis (fun b inside => ok b (List.mem_cons_of_mem _ inside))
      rw [List.mapM_cons, ok a List.mem_cons_self, later]
      rfl

/-- Whatever is made of a list is made of one of its elements. -/
theorem exists_of_mem_mapM {α β ε : Type} {f : α → Except ε β} {all : List α} {done : List β}
    (ok : all.mapM f = .ok done) {b : β} (listed : b ∈ done) : ∃ a ∈ all, f a = .ok b := by
  induction all generalizing done with
  | nil =>
      cases Except.ok.inj ok
      cases listed
  | cons a all inductionHypothesis =>
      rw [List.mapM_cons] at ok
      rcases bind_eq_ok_iff.mp ok with ⟨first, own, ok⟩
      rcases bind_eq_ok_iff.mp ok with ⟨others, later, same⟩
      cases Except.ok.inj same
      rcases List.mem_cons.mp listed with rfl | behind
      · exact ⟨a, List.mem_cons_self, own⟩
      · rcases inductionHypothesis later behind with ⟨other, inside, read⟩
        exact ⟨other, List.mem_cons_of_mem _ inside, read⟩

/-- A name fits a star and an ending if it ends so. -/
theorem fits_wildcard_iff {ending : String} {name : String} :
    fits (wildcard ending) name.toList = true ↔ Text.endsWith ending name = true := by
  have exact_iff : ∀ text name : List Char,
      fits (text.map Token.exactly) name = true ↔ name = text := by
    intro text
    induction text with
    | nil =>
        intro name
        cases name with
        | nil => exact iff_of_true rfl rfl
        | cons c name => simp [fits]
    | cons d text inductionHypothesis =>
        intro name
        cases name with
        | nil => simp [fits]
        | cons c name => simp [fits, inductionHypothesis]
  unfold wildcard fits Text.endsWith
  rw [someEnding_iff, List.isSuffixOf_iff_suffix]
  constructor
  · rintro ⟨front, rest, whole, same⟩
    rw [(exact_iff _ _).mp same] at whole
    exact ⟨front, whole.symm⟩
  · rintro ⟨front, whole⟩
    exact ⟨front, _, whole.symm, (exact_iff _ _).mpr rfl⟩

/-! ## The way to a literal directory -/

/-- A directory as its steps are written. -/
def trunk (d : Path) : Path :=
  Path.ofSteps d.steps

/-- A directory that a pattern takes literally, and that is written in the way in which a
search writes what it finds, but for a slash at its end. -/
structure Literal (d : Path) : Prop where
  regular : d = trunk d ∨ d = (trunk d).child ""
  anchored : d.steps.head?.any (· ≠ .here) = true
  plain : ∀ c ∈ d.text.toList, isSpecial c = false

instance (d : Path) : Decidable (Literal d) :=
  decidable_of_iff
    ((d = trunk d ∨ d = (trunk d).child "") ∧ d.steps.head?.any (· ≠ .here) = true ∧
      d.text.toList.all (fun c => !isSpecial c) = true)
    ⟨fun ⟨regular, anchored, plain⟩ => ⟨regular, anchored,
        fun c inside => Bool.not_eq_true' _ ▸ List.all_eq_true.mp plain c inside⟩,
      fun literal => ⟨literal.regular, literal.anchored,
        List.all_eq_true.mpr (fun c inside => Bool.not_eq_true' _ ▸ literal.plain c inside)⟩⟩

theorem Literal.written {d : Path} (literal : Literal d) : d.text ≠ "" := by
  intro vacant
  have still : d.steps = [] := by
    unfold Path.steps
    rw [vacant]
    rfl
  have anchored := literal.anchored
  rw [still] at anchored
  cases anchored

/-- Joining names one after another writes them with slashes between. -/
theorem foldl_child_eq {base : Path} {names : List String} (written : base.text ≠ "")
    (opened : Text.endsWith "/" base.text = false) (plain : ∀ name ∈ names, IsPlain name) :
    names.foldl Path.child base = ⟨Text.joined "/" (base.text :: names)⟩ := by
  induction names generalizing base with
  | nil => rfl
  | cons name names inductionHypothesis =>
      have first := plain name List.mem_cons_self
      have relative := Path.isAbsolute_of_notMem first.single
      have next : base.child name = ⟨base.text ++ "/" ++ name⟩ := by
        unfold Path.child Path.join
        simp only [relative, written, opened, Bool.false_eq_true, if_false, Bool.or_false,
          decide_false]
      have written' : (base.child name).text ≠ "" :=
        Path.text_child_ne_empty written first.single
      have opened' := Path.opened_child written first.single first.named
      have others := inductionHypothesis written' opened'
        (fun other inside => plain other (List.mem_cons_of_mem _ inside))
      rw [List.foldl_cons, others, next]
      rfl

theorem ofSteps_root {steps : List Path.Step} (plain : ∀ step ∈ steps, IsPlain step.text) :
    Path.ofSteps (.root :: steps) = (steps.map Path.Step.text).foldl Path.child ⟨"/"⟩ := by
  cases steps with
  | nil => rfl
  | cons step rest =>
      have head := plain step List.mem_cons_self
      have joined : (⟨"/"⟩ : Path).child step.text = ⟨"/" ++ step.text⟩ := by
        unfold Path.child Path.join
        rw [Path.isAbsolute_of_notMem head.single]
        rfl
      have root : (⟨"/"⟩ : Path).text ≠ "" := by decide
      have written := Path.text_child_ne_empty root head.single
      have opened := Path.opened_child root head.single head.named
      have others : ∀ name ∈ rest.map Path.Step.text, IsPlain name := by
        intro name listed
        rcases List.mem_map.mp listed with ⟨other, member, same⟩
        rw [← same]
        exact plain other (List.mem_cons_of_mem _ member)
      rw [List.map_cons, List.foldl_cons, foldl_child_eq written opened others, joined]
      rfl

theorem ofSteps_of_ne_root {first : Path.Step} {steps : List Path.Step} (notRoot : first ≠ .root)
    (head : IsPlain first.text) (plain : ∀ step ∈ steps, IsPlain step.text) :
    Path.ofSteps (first :: steps) = (steps.map Path.Step.text).foldl Path.child ⟨first.text⟩ := by
  have others : ∀ name ∈ steps.map Path.Step.text, IsPlain name := by
    intro name listed
    rcases List.mem_map.mp listed with ⟨other, member, same⟩
    rw [← same]
    exact plain other member
  have written : (⟨first.text⟩ : Path).text ≠ "" := head.named
  rw [foldl_child_eq written head.opened others]
  unfold Path.ofSteps
  split
  · rename_i alone
    exact absurd (List.cons.inj alone).1 notRoot
  · rfl

/-- A literal directory is reached over plain components, from the root or from the working
directory. -/
theorem Literal.route {d : Path} (literal : Literal d) :
    ∃ names : List String, (∀ name ∈ names, IsPlain name) ∧
      ((trunk d = names.foldl Path.child ⟨"/"⟩) ∨
        ∃ first, IsPlain first ∧ trunk d = names.foldl Path.child ⟨first⟩) := by
  rcases List.exists_cons_of_ne_nil (Text.pieces_ne_nil '/' d.text) with ⟨first, others, cut⟩
  have steps := Path.steps_eq literal.written cut
  have plainOf : ∀ segment ∈ Text.pieces '/' d.text, ∀ step,
      Path.Step.ofSegment segment = some step → IsPlain step.text ∧ step ≠ .root := by
    intro segment listed step moves
    rw [Path.Step.text_ofSegment moves]
    refine ⟨⟨Text.notMem_of_mem_pieces listed, Path.Step.isIdle_of_ofSegment moves, ?_⟩, ?_⟩
    · exact fun c inside => literal.plain c (Text.mem_of_mem_pieces listed inside)
    · rintro rfl
      exact Path.Step.ofSegment_ne_root segment moves
  have othersPlain : ∀ step ∈ others.filterMap Path.Step.ofSegment, IsPlain step.text := by
    intro step walked
    rcases List.mem_filterMap.mp walked with ⟨segment, member, moves⟩
    rw [cut] at plainOf
    exact (plainOf segment (List.mem_cons_of_mem _ member) step moves).1
  refine ⟨(others.filterMap Path.Step.ofSegment).map Path.Step.text, ?_, ?_⟩
  · intro name listed
    rcases List.mem_map.mp listed with ⟨step, walked, same⟩
    rw [← same]
    exact othersPlain step walked
  · have anchored := literal.anchored
    unfold trunk
    rw [steps] at anchored ⊢
    unfold Path.opening at anchored ⊢
    split
    · exact Or.inl (ofSteps_root othersPlain)
    · cases anchored
    · right
      cases moves : Path.Step.ofSegment first with
      | none =>
          rename_i notEmpty notHere
          unfold Path.Step.ofSegment at moves
          split at moves
          · exact absurd rfl notEmpty
          · exact absurd rfl notHere
          · cases moves
          · cases moves
      | some step =>
          have listed : first ∈ Text.pieces '/' d.text := by
            rw [cut]
            exact List.mem_cons_self
          rcases plainOf first listed step moves with ⟨head, notRoot⟩
          exact ⟨step.text, head, ofSteps_of_ne_root notRoot head othersPlain⟩

theorem way_foldl_child {base : Path} {names : List String} (written : base.text ≠ "")
    (plain : ∀ name ∈ names, IsPlain name) :
    (names.foldl Path.child base).way = base.way ++ names := by
  induction names generalizing base with
  | nil => exact (List.append_nil _).symm
  | cons name names inductionHypothesis =>
      have first := plain name List.mem_cons_self
      have others := inductionHypothesis (Path.text_child_ne_empty written first.single)
        (fun other inside => plain other (List.mem_cons_of_mem _ inside))
      rw [List.foldl_cons, others, Path.way_child written first.single first.named,
        List.append_assoc]
      rfl

/-! ## Reading a pattern behind a literal directory -/

section Reading

variable {d : Path} {ending : String}

/-- The pattern for the names in a directory that end in one way. -/
def below (d : Path) (ending : String) : Path :=
  d.child ("*" ++ ending)

/-- An ending that a pattern takes literally. -/
structure IsEnding (ending : String) : Prop where
  single : '/' ∉ ending.toList
  plain : ∀ c ∈ ending.toList, isSpecial c = false

theorem IsEnding.single_star (literal : IsEnding ending) : '/' ∉ ("*" ++ ending).toList := by
  rw [String.toList_append]
  intro inside
  rcases List.mem_append.mp inside with star | later
  · exact absurd star (by decide)
  · exact literal.single later

theorem star_ne_empty (ending : String) : "*" ++ ending ≠ "" := by
  intro vacant
  have characters := congrArg String.toList vacant
  rw [String.toList_append] at characters
  cases characters

theorem tokens_star (literal : IsEnding ending) :
    tokens ("*" ++ ending) = .ok (wildcard ending) := by
  unfold tokens
  rw [String.toList_append]
  exact tokensFrom_star literal.plain 0 none

theorem tokens_of_plain {name : String} (plain : ∀ c ∈ name.toList, isSpecial c = false) :
    tokens name = .ok (name.toList.map Token.exactly) :=
  tokensFrom_plain plain 0 none

/-- As a whole the pattern is well-formed. -/
theorem tokens_below (directory : Literal d) (literal : IsEnding ending) :
    ∃ read, tokens (below d ending).text = .ok read := by
  have relative := Path.isAbsolute_of_notMem literal.single_star
  rcases Path.text_child d relative with ⟨between, slash, text⟩
  have front : ∀ c ∈ d.text.toList ++ between.toList, isSpecial c = false := by
    intro c inside
    rcases List.mem_append.mp inside with own | added
    · exact directory.plain c own
    · rcases slash with rfl | rfl
      · cases added
      · rw [List.mem_singleton.mp added]
        rfl
  rcases tokensFrom_append front ('*' :: ending.toList) 0 none with ⟨previous, read⟩
  rw [tokensFrom_star literal.plain] at read
  refine ⟨_, Eq.trans ?_ read⟩
  unfold tokens below
  rw [text]
  simp only [String.toList_append, List.append_assoc]
  rfl

theorem componentTexts_of_pieces {pattern : String} {texts : List String} {last : String}
    (named : last ≠ "") (cut : Text.pieces '/' pattern = texts ++ [last]) :
    (if pattern = "" then [""]
      else match (Text.pieces '/' pattern).reverse with
        | "" :: rest => rest.reverse
        | all => all.reverse) = texts ++ [last] := by
  have written : pattern ≠ "" := by
    rintro rfl
    have one : texts ++ [last] = [] ++ [""] := cut.symm
    exact named (List.cons.inj (List.append_inj' one rfl).2).1
  rw [if_neg written, cut, List.reverse_append]
  simp only [List.reverse_cons, List.reverse_nil, List.nil_append, List.singleton_append]
  split
  · rename_i same
    exact absurd (List.cons.inj same).1 named
  · rw [List.reverse_cons, List.reverse_reverse]

theorem componentTexts_absolute {pattern : String} {texts : List String} {last : String}
    (named : last ≠ "") (cut : Text.pieces '/' pattern = "" :: texts ++ [last]) :
    Text.startsWith "/" pattern = true ∧ Query.componentTexts pattern = texts ++ [last] := by
  have later : texts ++ [last] ≠ [] := List.append_ne_nil_of_right_ne_nil _ (List.cons_ne_nil _ _)
  rcases Text.eq_cons_of_pieces cut later with ⟨rest, characters, relative⟩
  have starts : Text.startsWith "/" pattern = true := by
    unfold Text.startsWith
    rw [characters]
    rfl
  have dropped : String.ofList (pattern.toList.drop 1) = rest := by
    rw [characters, List.drop_one, List.tail_cons, String.ofList_toList]
  refine ⟨starts, ?_⟩
  unfold Query.componentTexts
  simp only [starts, if_true, dropped]
  exact componentTexts_of_pieces named relative

theorem componentTexts_relative {pattern first : String} {texts : List String} {last : String}
    (opened : first ≠ "") (named : last ≠ "")
    (cut : Text.pieces '/' pattern = first :: texts ++ [last]) :
    Text.startsWith "/" pattern = false ∧
      Query.componentTexts pattern = first :: texts ++ [last] := by
  have starts : Text.startsWith "/" pattern = false := by
    apply Bool.eq_false_iff.mpr
    intro slash
    rcases List.isPrefixOf_iff_prefix.mp slash with ⟨rest, whole⟩
    unfold Text.pieces at cut
    rw [← whole] at cut
    exact opened (List.cons.inj cut).1.symm
  refine ⟨starts, ?_⟩
  unfold Query.componentTexts
  simp only [starts, if_false, Bool.false_eq_true]
  exact componentTexts_of_pieces named cut

/-- A pattern that reads as a whole is searched by what its components read as. -/
theorem read_of_mapM {pattern : String} {texts : List String} {whole : List Token}
    {components : List (List Token)} (read : tokens pattern = .ok whole)
    (cut : Query.componentTexts pattern = texts) (each : texts.mapM tokens = .ok components)
    (noDepth : Component.anyDepth ∉ components.map Component.ofTokens) :
    Query.read pattern =
      .ok ⟨if Text.startsWith "/" pattern then ⟨"/"⟩ else ⟨"."⟩,
        components.map Component.ofTokens, Text.endsWith "/" pattern⟩ := by
  unfold Query.read
  rw [read, cut]
  change (do
    let components ← texts.mapM tokens
    return Query.mk _ _ _) = _
  rw [each]
  change Except.ok (Query.mk _ (Component.collapsed (List.map _ _)) _) = _
  rw [collapsed_of_noDepth noDepth]

/-- Plain components before a star are read as they stand. -/
theorem read_of_componentTexts {pattern : String} {texts : List String} {read : List Token}
    (literal : IsEnding ending) (whole : tokens pattern = .ok read)
    (plain : ∀ text ∈ texts, IsPlain text)
    (cut : Query.componentTexts pattern = texts ++ ["*" ++ ending]) :
    Query.read pattern =
      .ok ⟨if Text.startsWith "/" pattern then ⟨"/"⟩ else ⟨"."⟩,
        texts.map Component.plain ++ [.wild (wildcard ending)], Text.endsWith "/" pattern⟩ := by
  have front : texts.mapM tokens =
      .ok (texts.map (fun text => text.toList.map Token.exactly)) :=
    mapM_of_ok (fun text listed => tokens_of_plain (plain text listed).plain)
  have all : (texts ++ ["*" ++ ending]).mapM tokens =
      .ok (texts.map (fun text => text.toList.map Token.exactly) ++ [wildcard ending]) := by
    rw [List.mapM_append, front, List.mapM_cons, tokens_star literal]
    rfl
  have components :
      (texts.map (fun text => text.toList.map Token.exactly) ++ [wildcard ending]).map
        Component.ofTokens = texts.map Component.plain ++ [.wild (wildcard ending)] := by
    rw [List.map_append, List.map_map, List.map_singleton, ofTokens_wildcard]
    congr 1
    apply List.map_congr_left
    intro text _
    exact ofTokens_plain text
  have noDepth : Component.anyDepth ∉
      texts.map Component.plain ++ [.wild (wildcard ending)] := by
    intro listed
    rcases List.mem_append.mp listed with early | last
    · rcases List.mem_map.mp early with ⟨text, _, impossible⟩
      cases impossible
    · cases List.mem_singleton.mp last
  rw [← components] at noDepth ⊢
  exact read_of_mapM whole cut all noDepth

end Reading

/-! ## Walking to a literal directory -/

section Walking

variable {t : FileTree} {names : List String}

theorem isDirectory_of_foldl_child {base : Path} (written : base.text ≠ "")
    (plain : ∀ name ∈ names, IsPlain name)
    (directory : t.isDirectory (names.foldl Path.child base) = true) :
    t.isDirectory base = true := by
  induction names generalizing base with
  | nil => exact directory
  | cons name names inductionHypothesis =>
      have first := plain name List.mem_cons_self
      have next := inductionHypothesis (Path.text_child_ne_empty written first.single)
        (fun other inside => plain other (List.mem_cons_of_mem _ inside)) directory
      exact FileTree.isDirectory_of_present_child written first.single
        (t.present_of_isDirectory next)

theorem ofSegment_ne_here (segment : String) : Path.Step.ofSegment segment ≠ some .here := by
  intro moves
  have notIdle := Path.Step.isIdle_of_ofSegment moves
  rw [← Path.Step.text_ofSegment moves] at notIdle
  cases notIdle

theorem steps_ne_here {name : String} (single : '/' ∉ name.toList)
    (moves : Path.isIdle name = false) : (⟨name⟩ : Path).steps ≠ [.here] := by
  have written : (⟨name⟩ : Path).text ≠ "" := by
    rintro rfl
    cases moves
  rw [Path.steps_eq written (Text.pieces_of_notMem single), List.filterMap_nil,
    List.append_nil]
  unfold Path.opening
  split
  case h_1 => exact nofun
  case h_2 same =>
    have idle : Path.isIdle "." = false := same ▸ moves
    cases idle
  case h_3 =>
    intro here
    cases first : Path.Step.ofSegment name with
    | none =>
        rw [first] at here
        cases here
    | some step =>
        rw [first] at here
        cases here
        exact ofSegment_ne_here name first

theorem IsPlain.elsewhere {name : String} (plain : IsPlain name) :
    (⟨name⟩ : Path).steps ≠ [.here] :=
  steps_ne_here plain.single plain.moves

theorem steps_child_ne_here {base : Path} {name : String} (written : base.text ≠ "")
    (single : '/' ∉ name.toList) (elsewhere : base.steps ≠ [.here]) :
    (base.child name).steps ≠ [.here] := by
  rw [Path.steps_child written (Path.isAbsolute_of_notMem single),
    Text.pieces_of_notMem single]
  intro here
  cases moves : Path.Step.ofSegment name with
  | none =>
      simp only [List.filterMap_cons, moves, List.filterMap_nil, List.append_nil] at here
      exact elsewhere here
  | some step =>
      simp only [List.filterMap_cons, moves, List.filterMap_nil] at here
      change base.steps ++ [step] = [] ++ [Path.Step.here] at here
      cases (List.append_inj' here rfl).2
      exact ofSegment_ne_here name moves

/-- The search follows plain components to a directory that is there. -/
theorem search_plain {base : Path} (written : base.text ≠ "") (elsewhere : base.steps ≠ [.here])
    (plain : ∀ name ∈ names, IsPlain name) (rest : List Component)
    (directory : t.isDirectory (names.foldl Path.child base) = true) :
    search t false (names.map Component.plain ++ rest) base =
      search t false rest (names.foldl Path.child base) := by
  induction names generalizing base with
  | nil => rfl
  | cons name names inductionHypothesis =>
      have first := plain name List.mem_cons_self
      have others : ∀ other ∈ names, IsPlain other :=
        fun other inside => plain other (List.mem_cons_of_mem _ inside)
      have written' := Path.text_child_ne_empty written first.single
      have elsewhere' := steps_child_ne_here written first.single elsewhere
      -- The directory at the end is there, so every directory on the way to it is.
      have next := isDirectory_of_foldl_child written' others directory
      have present := t.present_of_isDirectory next
      have here := FileTree.isDirectory_of_present_child written first.single present
      have entry : entryPath base name = base.child name := if_neg elsewhere
      have leads : leadsOn t base name = true := by
        unfold leadsOn
        rw [entry, here, present, ite_self]
      rw [List.map_cons, List.cons_append, search, if_pos leads, entry]
      exact inductionHypothesis written' elsewhere' others directory

/-- From the working directory the first name stands for itself. -/
theorem search_first {first : String} (plain : IsPlain first) (rest : List Component)
    (directory : t.isDirectory ⟨first⟩ = true) :
    search t false (.plain first :: rest) ⟨"."⟩ = search t false rest ⟨first⟩ := by
  have entry : entryPath ⟨"."⟩ first = ⟨first⟩ := rfl
  have here : t.isDirectory ⟨"."⟩ = true := by
    rcases FileTree.isDirectory_iff.mp directory with ⟨location, located, _⟩
    rcases FileTree.follow_of_locate located with ⟨_, _, _, followed⟩
    have relative := Path.isAbsolute_of_notMem plain.single
    have start : t.start ⟨first⟩ = t.workDir := by
      unfold FileTree.start
      rw [relative]
      rfl
    rw [Text.pieces_of_notMem plain.single, start] at followed
    have work := FileTree.directory_of_follow followed
    have still : t.follow (t.start ⟨"."⟩) (Text.pieces '/' ".") = .ok t.workDir :=
      FileTree.follow_idle work rfl
    exact FileTree.isDirectory_iff.mpr
      ⟨t.workDir, FileTree.locate_of_follow (by decide) (by decide) (by decide) still, work⟩
  have leads : leadsOn t ⟨"."⟩ first = true := by
    unfold leadsOn
    rw [entry, here, t.present_of_isDirectory directory, ite_self]
  rw [search, if_pos leads, entry]

theorem Literal.trunk_written {d : Path} (literal : Literal d) : (trunk d).text ≠ "" := by
  intro vacant
  have empty : trunk d = ⟨""⟩ := congrArg Path.mk vacant
  have regular := literal.regular
  rw [empty] at regular
  rcases regular with same | same
  · exact literal.written (congrArg Path.text same)
  · exact literal.written (congrArg Path.text same)

theorem Literal.child_trunk {d : Path} (literal : Literal d) (name : String) :
    (trunk d).child name = d.child name := by
  rcases literal.regular with same | closed
  · rw [← same]
  · have joined := Path.child_child_empty literal.trunk_written name
    rw [← closed] at joined
    exact joined.symm

theorem Literal.elsewhere {d : Path} (literal : Literal d) : (trunk d).steps ≠ [.here] := by
  have steps : (trunk d).steps = d.steps := by
    rcases literal.regular with same | closed
    · rw [← same]
    · have moves := congrArg Path.steps closed
      rw [Path.steps_child literal.trunk_written rfl] at moves
      exact (moves.trans (List.append_nil _)).symm
  intro here
  have anchored := literal.anchored
  rw [← steps, here] at anchored
  cases anchored

/-- The slash at its end apart, a directory and its trunk are one. -/
theorem Literal.directory_trunk {t : FileTree} {d : Path} (literal : Literal d)
    (directory : t.isDirectory d = true) :
    t.isDirectory (trunk d) = true ∧ namesAt t (trunk d) = namesAt t d := by
  rcases literal.regular with same | closed
  · rw [← same]
    exact ⟨directory, rfl⟩
  · have present := t.present_of_isDirectory directory
    rw [closed] at present
    rcases FileTree.directory_of_present_child literal.trunk_written (by decide) present with
      ⟨location, place, located, there, followed, joined⟩
    rw [FileTree.follow_idle there rfl] at followed
    cases followed
    refine ⟨FileTree.isDirectory_iff.mpr ⟨location, located, there⟩, ?_⟩
    rw [← closed] at joined
    unfold namesAt
    rw [located, joined]

/-- Only a directory lists names. -/
theorem namesAt_of_notDirectory {d : Path} (other : t.isDirectory d = false) :
    namesAt t d = [] := by
  rw [List.eq_nil_iff_forall_not_mem]
  intro name listed
  unfold namesAt at listed
  cases located : t.locate d with
  | error cause =>
      rw [located] at listed
      cases listed
  | ok location =>
      rw [located] at listed
      have directory := t.entryAt_parent (FileTree.mem_names_iff.mp listed)
      rw [FileTree.isDirectory_iff.mpr ⟨location, located, directory⟩] at other
      cases other

theorem sorted_namesAt (t : FileTree) (d : Path) :
    (namesAt t d).Pairwise (fun a b => KeyOrder.before a b = true) := by
  unfold namesAt
  split
  · exact t.sorted_names _
  · exact List.Pairwise.nil

/-- What a directory lists can stand as a segment of a path. -/
theorem isName_of_mem_namesAt {d : Path} {name : String} (listed : name ∈ namesAt t d) :
    '/' ∉ name.toList ∧ Path.Step.ofSegment name = some (.name name) := by
  unfold namesAt at listed
  cases located : t.locate d with
  | error cause =>
      rw [located] at listed
      cases listed
  | ok location =>
      rw [located] at listed
      have present := FileTree.mem_names_iff.mp listed
      rcases FileTree.proper_of_isName (t.isName_of_entryAt present) with ⟨_, _, _, single, _⟩
      exact ⟨single, FileTree.ofSegment_of_entryAt present⟩

/-- A last component with wildcards finds the names of the directory that fit it. -/
theorem search_wild {tokens : List Token} (ordinary : specialNames tokens = []) (d : Path) :
    search t false [.wild tokens] d =
      ((namesAt t d).filter (fun name => fits tokens name.toList)).map (entryPath d) := by
  have one : ∀ name, search t false [] (entryPath d name) = [entryPath d name] := by
    intro name
    rw [search]
    rfl
  rw [search]
  split
  · rw [ordinary]
    simp only [one, List.flatMap_nil, List.nil_append]
    exact List.map_eq_flatMap.symm
  · rename_i other
    rw [namesAt_of_notDirectory (Bool.eq_false_iff.mpr other)]
    rfl

/-- In the directory itself the names are listed that end in the right way. -/
theorem search_wildcard {d : Path} (elsewhere : d.steps ≠ [.here]) (ending : String) :
    search t false [.wild (wildcard ending)] d =
      ((namesAt t d).filter (Text.endsWith ending)).map d.child := by
  have fitting : (namesAt t d).filter (fun name => fits (wildcard ending) name.toList) =
      (namesAt t d).filter (Text.endsWith ending) := by
    apply List.filter_congr
    intro name _
    exact Bool.eq_iff_iff.mpr fits_wildcard_iff
  have entry : entryPath d = d.child := funext (fun name => if_neg elsewhere)
  rw [search_wild rfl, fitting, entry]

end Walking

/-- Behind a literal directory, a star and an ending find the names of that directory that end
so, and nothing else, each as the path that is joined of directory and name. -/
theorem paths_below {t : FileTree} {d : Path} {ending : String} (literal : Literal d)
    (closing : IsEnding ending) (directory : t.isDirectory d = true) :
    paths t (below d ending).text =
      .ok (Path.sort (((namesAt t d).filter (Text.endsWith ending)).map d.child)) := by
  rcases literal.directory_trunk directory with ⟨directory', names'⟩
  have relative := Path.isAbsolute_of_notMem closing.single_star
  have named := star_ne_empty ending
  have pattern : (trunk d).child ("*" ++ ending) = below d ending := literal.child_trunk _
  have opened : Text.endsWith "/" (below d ending).text = false :=
    Path.opened_child literal.written closing.single_star named
  have cut : Text.pieces '/' (below d ending).text = (trunk d).way ++ ["*" ++ ending] := by
    rw [← pattern, Path.pieces_child literal.trunk_written relative,
      Text.pieces_of_notMem closing.single_star]
  have found : search t false [.wild (wildcard ending)] (trunk d) =
      ((namesAt t d).filter (Text.endsWith ending)).map d.child := by
    rw [search_wildcard literal.elsewhere ending, names']
    exact congrArg (fun joined => List.map joined _) (funext literal.child_trunk)
  rcases tokens_below literal closing with ⟨read, whole⟩
  -- With the components read, it remains to walk from where the pattern starts to the trunk.
  have result : ∀ start texts, (∀ text ∈ texts, IsPlain text) →
      (if Text.startsWith "/" (below d ending).text then ⟨"/"⟩ else ⟨"."⟩) = start →
      Query.componentTexts (below d ending).text = texts ++ ["*" ++ ending] →
      search t false (texts.map Component.plain ++ [.wild (wildcard ending)]) start =
        search t false [.wild (wildcard ending)] (trunk d) →
      paths t (below d ending).text =
        .ok (Path.sort (((namesAt t d).filter (Text.endsWith ending)).map d.child)) := by
    intro start texts plain begins components walked
    unfold paths
    rw [read_of_componentTexts closing whole plain components, begins, opened]
    simp only
    rw [walked, found]
  rcases literal.route with ⟨names, plain, root | ⟨first, head, work⟩⟩
  · have way : (trunk d).way = "" :: names := by
      rw [root]
      exact way_foldl_child (by decide) plain
    rw [way] at cut
    rcases componentTexts_absolute named cut with ⟨starts, components⟩
    apply result ⟨"/"⟩ names plain (by rw [starts]; rfl) components
    rw [root] at directory' ⊢
    exact search_plain (by decide) (by decide) plain _ directory'
  · have written : (⟨first⟩ : Path).text ≠ "" := head.named
    have own : (⟨first⟩ : Path).way = [first] := by
      unfold Path.way
      simp only [head.opened, Bool.false_eq_true, if_false]
      exact Text.pieces_of_notMem head.single
    have way : (trunk d).way = first :: names := by
      rw [work, way_foldl_child written plain, own]
      rfl
    rw [way] at cut
    rcases componentTexts_relative head.named named cut with ⟨starts, components⟩
    have all : ∀ text ∈ first :: names, IsPlain text := by
      intro text listed
      rcases List.mem_cons.mp listed with same | later
      · rw [same]
        exact head
      · exact plain text later
    apply result ⟨"."⟩ (first :: names) all (by rw [starts]; rfl) components
    rw [work] at directory' ⊢
    rw [List.map_cons, List.cons_append,
      search_first head _ (isDirectory_of_foldl_child written plain directory')]
    exact search_plain written head.elsewhere plain _ directory'

end Glob
end HostLink
