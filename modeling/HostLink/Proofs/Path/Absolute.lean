import HostLink.Path.Absolute
import HostLink.Proofs.Path

namespace HostLink
namespace Path

/-!
# Settled paths

Taken from an absolute root, every path settles to an absolute one.  Its moves are the root
and names, with at most one `..` between them, which stands where a path tries to leave the
root of all directories.  Such a list of moves is settled already, and it is read back from
the text that is written for it.  So a path that is made absolute stays as it is when this is
done again, also with names joined to it.
-/

/-! ## Moves inside a path -/

/-- A move that a segment inside a path stands for. -/
structure Step.Inner (s : Step) : Prop where
  segment : Step.ofSegment s.text = some s
  single : '/' ∉ s.text.toList

theorem Step.inner_of_ofSegment {text : String} {s : Step} (single : '/' ∉ text.toList)
    (moves : Step.ofSegment text = some s) : s.Inner := by
  have written := Step.text_ofSegment moves
  constructor
  · rw [written]
    exact moves
  · rw [written]
    exact single

theorem Step.inner_up : Step.up.Inner :=
  ⟨rfl, by decide⟩

theorem Step.Inner.named {s : Step} (inner : s.Inner) : s.text ≠ "" := by
  intro vacant
  have moves := inner.segment
  rw [vacant] at moves
  cases moves

theorem Step.Inner.ne_root {s : Step} (inner : s.Inner) : s ≠ .root := by
  intro same
  subst same
  exact inner.named rfl

theorem Step.Inner.ne_here {s : Step} (inner : s.Inner) : s ≠ .here := by
  intro same
  subst same
  cases inner.segment

/-! ## Absolute paths by their moves -/

theorem written_of_isAbsolute {p : Path} (rooted : p.isAbsolute = true) : p.text ≠ "" := by
  intro vacant
  unfold isAbsolute at rooted
  rw [vacant] at rooted
  cases rooted

theorem pieces_slash (rest : String) :
    Text.pieces '/' ("/" ++ rest) = "" :: Text.pieces '/' rest := by
  have whole : "/" ++ rest = "" ++ "/" ++ rest := rfl
  rw [whole, Text.pieces_append_separator]
  rfl

theorem text_of_isAbsolute {p : Path} (rooted : p.isAbsolute = true) :
    ∃ rest, p.text = "/" ++ rest := by
  unfold isAbsolute at rooted
  cases characters : p.text.toList with
  | nil =>
      rw [characters] at rooted
      cases rooted
  | cons c rest =>
      rw [characters, List.head?_cons, beq_iff_eq, Option.some.injEq] at rooted
      refine ⟨String.ofList rest, String.toList_injective ?_⟩
      simp [characters, rooted]

/-- The moves of an absolute path start at the root, and none of the others does. -/
theorem steps_of_isAbsolute {p : Path} (rooted : p.isAbsolute = true) :
    ∃ moves, p.steps = .root :: moves ∧ ∀ s ∈ moves, s.Inner := by
  rcases text_of_isAbsolute rooted with ⟨rest, text⟩
  have cut : Text.pieces '/' p.text = "" :: Text.pieces '/' rest := by
    rw [text, pieces_slash]
  refine ⟨(Text.pieces '/' rest).filterMap Step.ofSegment,
    steps_eq (written_of_isAbsolute rooted) cut, ?_⟩
  intro s walked
  rcases List.mem_filterMap.mp walked with ⟨segment, listed, moves⟩
  exact Step.inner_of_ofSegment (Text.notMem_of_mem_pieces listed) moves

/-- Only an absolute path starts at the root. -/
theorem isAbsolute_of_steps {p : Path} {moves : List Step} (begins : p.steps = .root :: moves) :
    p.isAbsolute = true := by
  have written : p.text ≠ "" := by
    intro vacant
    unfold steps at begins
    rw [vacant] at begins
    cases begins
  rcases List.exists_cons_of_ne_nil (Text.pieces_ne_nil '/' p.text) with ⟨first, others, cut⟩
  rw [steps_eq written cut] at begins
  by_cases vacant : first = ""
  · subst vacant
    have later : others ≠ [] := by
      intro alone
      rw [alone] at cut
      have same : Text.pieces '/' p.text = Text.pieces '/' "" := cut
      exact written (Text.pieces_injective same)
    rcases Text.eq_cons_of_pieces cut later with ⟨rest, characters, _⟩
    unfold isAbsolute
    rw [characters]
    rfl
  · exfalso
    have listed : Step.root ∈ opening first ++ others.filterMap Step.ofSegment := by
      rw [begins]
      exact List.mem_cons_self
    rcases List.mem_append.mp listed with front | behind
    · unfold opening at front
      split at front
      · exact vacant rfl
      · cases List.mem_singleton.mp front
      · exact Step.ofSegment_ne_root _ (Option.mem_toList.mp front)
    · rcases List.mem_filterMap.mp behind with ⟨segment, _, moves⟩
      exact Step.ofSegment_ne_root segment moves

/-- What lies below an absolute directory is absolute. -/
theorem isAbsolute_of_isUnder {base path : Path} (rooted : base.isAbsolute = true)
    (below : base.isUnder path = true) : path.isAbsolute = true := by
  rcases steps_of_isAbsolute rooted with ⟨moves, begins, _⟩
  unfold isUnder at below
  rw [List.isPrefixOf_iff_prefix, begins] at below
  rcases below with ⟨rest, whole⟩
  exact isAbsolute_of_steps whole.symm

theorem isAbsolute_ofSteps_root (moves : List Step) :
    (ofSteps (.root :: moves)).isAbsolute = true := by
  cases moves with
  | nil => rfl
  | cons s rest =>
      have text : (ofSteps (.root :: s :: rest)).text.toList =
          '/' :: (s.text ++ String.join ((rest.map Step.text).map ("/" ++ ·))).toList := by
        change (Text.joined "/" ("" :: s.text :: rest.map Step.text)).toList = _
        rw [Text.joined_cons, List.map_cons, String.join_cons]
        simp
      unfold isAbsolute
      rw [text]
      rfl

/-- Every move from the root is written as a segment of its own. -/
theorem pieces_ofSteps_root {moves : List Step} (some : moves ≠ [])
    (inner : ∀ s ∈ moves, s.Inner) :
    Text.pieces '/' (ofSteps (.root :: moves)).text = "" :: moves.map Step.text := by
  cases moves with
  | nil => exact absurd rfl some
  | cons s rest =>
      refine Text.parts_iff.mp ⟨rfl, List.cons_ne_nil _ _, ?_⟩
      intro part listed
      rcases List.mem_cons.mp listed with first | later
      · rw [first]
        decide
      · rcases List.mem_map.mp later with ⟨other, member, same⟩
        rw [← same]
        exact (inner other member).single

theorem way_ofSteps_root {moves : List Step} (inner : ∀ s ∈ moves, s.Inner) :
    (ofSteps (.root :: moves)).way = "" :: moves.map Step.text := by
  cases moves with
  | nil => rfl
  | cons s rest =>
      have cut := pieces_ofSteps_root (List.cons_ne_nil s rest) inner
      rcases pieces_eq_way (ofSteps (.root :: s :: rest)) with same | closed
      · rw [← same, cut]
      · -- A slash at the end would leave an empty segment, and no move is written as one.
        exfalso
        have last : (s :: rest).map Step.text ≠ [] := List.cons_ne_nil _ _
        have ending : ((s :: rest).map Step.text).getLast last = "" := by
          have ends := congrArg List.getLast? (cut.symm.trans closed)
          rw [List.getLast?_concat, List.getLast?_cons, List.getLast?_eq_some_getLast last] at ends
          exact Option.some.inj ends
        rcases List.mem_map.mp (ending ▸ List.getLast_mem last) with ⟨other, member, vacant⟩
        exact (inner other member).named vacant

theorem filterMap_ofSegment_text {moves : List Step} (inner : ∀ s ∈ moves, s.Inner) :
    (moves.map Step.text).filterMap Step.ofSegment = moves := by
  induction moves with
  | nil => rfl
  | cons first others inductionHypothesis =>
      have behind := inductionHypothesis
        (fun other listed => inner other (List.mem_cons_of_mem _ listed))
      rw [List.map_cons, List.filterMap_cons, (inner first List.mem_cons_self).segment]
      exact congrArg (first :: ·) behind

/-- Moves from the root are read back from their text. -/
theorem steps_ofSteps_root {moves : List Step} (inner : ∀ s ∈ moves, s.Inner) :
    (ofSteps (.root :: moves)).steps = .root :: moves := by
  cases moves with
  | nil => rfl
  | cons s rest =>
      have cut := pieces_ofSteps_root (List.cons_ne_nil s rest) inner
      rw [steps_eq (written_of_isAbsolute (isAbsolute_ofSteps_root _)) cut,
        filterMap_ofSegment_text inner]
      rfl

/-- One more name is written as a name that is joined. -/
theorem ofSteps_root_concat {moves : List Step} (inner : ∀ s ∈ moves, s.Inner) {name : String}
    (last : (Step.name name).Inner) :
    ofSteps (.root :: (moves ++ [.name name])) = (ofSteps (.root :: moves)).child name := by
  have single : '/' ∉ name.toList := last.single
  have longer : ∀ s ∈ moves ++ [.name name], s.Inner := by
    intro s listed
    rcases List.mem_append.mp listed with former | added
    · exact inner s former
    · rw [List.mem_singleton.mp added]
      exact last
  have written := written_of_isAbsolute (isAbsolute_ofSteps_root moves)
  have segments : Text.pieces '/' (ofSteps (.root :: (moves ++ [.name name]))).text =
      Text.pieces '/' ((ofSteps (.root :: moves)).child name).text := by
    rw [pieces_ofSteps_root (by simp) longer, pieces_child written (isAbsolute_of_notMem single),
      way_ofSteps_root inner, Text.pieces_of_notMem single, List.map_append]
    rfl
  exact congrArg Path.mk (Text.pieces_injective segments)

/-! ## Settling -/

/-- Settled moves from the root, the last one on top. -/
inductive Anchored : List Step → Prop
  | root : Anchored [.root]
  /-- An attempt to leave the root of all directories. -/
  | beyond : Anchored [.up, .root]
  | name {name : String} {stack : List Step} (inner : (Step.name name).Inner)
      (below : Anchored stack) : Anchored (.name name :: stack)

theorem Anchored.settle_inner {stack : List Step} (anchored : Anchored stack) {s : Step}
    (inner : s.Inner) : Anchored (settle stack s) := by
  cases s with
  | root => exact absurd rfl inner.ne_root
  | here => exact absurd rfl inner.ne_here
  | up =>
      cases anchored with
      | root => exact .beyond
      | beyond => exact .root
      | name _ below => exact below
  | name text => exact .name inner anchored

theorem Anchored.settle_all {stack moves : List Step} (anchored : Anchored stack)
    (inner : ∀ s ∈ moves, s.Inner) : Anchored (moves.foldl settle stack) := by
  induction moves generalizing stack with
  | nil => exact anchored
  | cons s rest inductionHypothesis =>
      apply inductionHypothesis (anchored.settle_inner (inner s List.mem_cons_self))
      intro other listed
      exact inner other (List.mem_cons_of_mem _ listed)

/-- In their order, the moves of a stack start at the root, and none of the others does. -/
theorem Anchored.reverse_eq {stack : List Step} (anchored : Anchored stack) :
    ∃ moves, stack.reverse = .root :: moves ∧ ∀ s ∈ moves, s.Inner := by
  induction anchored with
  | root => exact ⟨[], rfl, nofun⟩
  | beyond =>
      refine ⟨[.up], rfl, ?_⟩
      intro s listed
      rw [List.mem_singleton.mp listed]
      exact Step.inner_up
  | @name name stack inner below inductionHypothesis =>
      rcases inductionHypothesis with ⟨moves, same, others⟩
      refine ⟨moves ++ [.name name], ?_, ?_⟩
      · rw [List.reverse_cons, same]
        rfl
      · intro s listed
        rcases List.mem_append.mp listed with former | added
        · exact others s former
        · rw [List.mem_singleton.mp added]
          exact inner

/-- A stack is what its own moves settle to. -/
theorem Anchored.settled_reverse {stack : List Step} (anchored : Anchored stack) :
    settled stack.reverse = stack.reverse := by
  have rebuilt : stack.reverse.foldl settle [] = stack := by
    induction anchored with
    | root => rfl
    | beyond => rfl
    | name inner below inductionHypothesis =>
        rw [List.reverse_cons, List.foldl_append, inductionHypothesis]
        rfl
  unfold settled
  rw [rebuilt]

theorem anchored_of_isAbsolute {p : Path} (rooted : p.isAbsolute = true) :
    ∃ stack, Anchored stack ∧ settled p.steps = stack.reverse := by
  rcases steps_of_isAbsolute rooted with ⟨moves, steps, inner⟩
  refine ⟨moves.foldl settle [.root], Anchored.root.settle_all inner, ?_⟩
  rw [steps]
  rfl

/-! ## Paths made absolute -/

theorem isAbsolute_join {base : Path} (rooted : base.isAbsolute = true) (path : Path) :
    (base.join path).isAbsolute = true := by
  cases own : path.isAbsolute with
  | true => rw [join_of_isAbsolute base own, own]
  | false =>
      have child : base.child path.text = base.join path := rfl
      rw [← child, isAbsolute_child (written_of_isAbsolute rooted) own, rooted]

/-- An absolute directory makes everything that is joined to it absolute. -/
theorem isAbsolute_child_of_isAbsolute {base : Path} (rooted : base.isAbsolute = true)
    (name : String) : (base.child name).isAbsolute = true :=
  isAbsolute_join rooted ⟨name⟩

/-- A path made absolute is written for a settled stack. -/
theorem exists_anchored_absolute {root : Path} (rooted : root.isAbsolute = true) (path : Path) :
    ∃ stack, Anchored stack ∧ absolute root path = ofSteps stack.reverse := by
  rcases anchored_of_isAbsolute (isAbsolute_join rooted path) with ⟨stack, anchored, same⟩
  refine ⟨stack, anchored, ?_⟩
  unfold absolute
  rw [same]

/-- Taken from an absolute root, every path becomes absolute. -/
theorem isAbsolute_absolute {root : Path} (rooted : root.isAbsolute = true) (path : Path) :
    (absolute root path).isAbsolute = true := by
  rcases exists_anchored_absolute rooted path with ⟨stack, anchored, same⟩
  rcases anchored.reverse_eq with ⟨moves, begins, _⟩
  rw [same, begins]
  exact isAbsolute_ofSteps_root moves

/-- What is written for a settled stack is not changed by making it absolute. -/
theorem Anchored.absolute_ofSteps {stack : List Step} (anchored : Anchored stack) (root : Path) :
    absolute root (ofSteps stack.reverse) = ofSteps stack.reverse := by
  rcases anchored.reverse_eq with ⟨moves, begins, inner⟩
  have rooted : (ofSteps stack.reverse).isAbsolute = true := by
    rw [begins]
    exact isAbsolute_ofSteps_root moves
  have steps : (ofSteps stack.reverse).steps = stack.reverse := by
    rw [begins]
    exact steps_ofSteps_root inner
  unfold absolute
  rw [join_of_isAbsolute root rooted, steps, anchored.settled_reverse]

/-- A path that is absolute already is settled by its moves alone. -/
theorem absolute_eq_of_steps {base path other : Path} (root : Path)
    (rooted : base.isAbsolute = true) (same : other.steps = (base.join path).steps) :
    absolute root other = absolute base path := by
  rcases steps_of_isAbsolute (isAbsolute_join rooted path) with ⟨moves, begins, _⟩
  have above : other.isAbsolute = true := isAbsolute_of_steps (same.trans begins)
  unfold absolute
  rw [join_of_isAbsolute root above, same]

/-- A name below a path that was made absolute needs not be made absolute again. -/
theorem absolute_child_absolute {root : Path} (rooted : root.isAbsolute = true) (path : Path)
    {name : String} (inner : (Step.name name).Inner) :
    absolute root ((absolute root path).child name) = (absolute root path).child name := by
  rcases exists_anchored_absolute rooted path with ⟨stack, anchored, same⟩
  rcases anchored.reverse_eq with ⟨moves, begins, others⟩
  have longer : Anchored (.name name :: stack) := .name inner anchored
  have child : (absolute root path).child name = ofSteps (Step.name name :: stack).reverse := by
    rw [same, List.reverse_cons, begins]
    exact (ofSteps_root_concat others inner).symm
  rw [child]
  exact longer.absolute_ofSteps root

end Path
end HostLink
