import HostLink.Proofs.Path.Absolute
import Mathlib.Data.List.DropRight

namespace HostLink
namespace Path

/-!
# The path without its last move

The parent of a path is found in its text: the last segment that makes a move goes, and so do
the segments around it that make none.  What is left makes all moves but the last.  An absolute
path that moves at all has a parent, and the parent is absolute again.
-/

theorem ofSegment_isSome_iff {segment : String} :
    (Step.ofSegment segment).isSome = true ↔ isIdle segment = false := by
  constructor
  · intro moves
    rcases Option.isSome_iff_exists.mp moves with ⟨s, found⟩
    exact Step.isIdle_of_ofSegment found
  · intro busy
    unfold Step.ofSegment
    split
    · cases busy
    · cases busy
    · rfl
    · rfl

theorem ofSegment_of_isIdle {segment : String} (idle : isIdle segment = true) :
    Step.ofSegment segment = none := by
  rcases isIdle_iff.mp idle with rfl | rfl <;> rfl

theorem upToLastMove_eq (segments : List String) :
    upToLastMove segments = segments.rdropWhile isIdle := rfl

/-- Only segments without a move are dropped. -/
theorem filterMap_upToLastMove (segments : List String) :
    (upToLastMove segments).filterMap Step.ofSegment = segments.filterMap Step.ofSegment := by
  rw [upToLastMove_eq]
  induction segments using List.reverseRecOn with
  | nil => rfl
  | append_singleton segments last inductionHypothesis =>
      by_cases idle : isIdle last = true
      · rw [List.rdropWhile_concat_pos _ _ _ idle, inductionHypothesis, List.filterMap_append]
        simp [ofSegment_of_isIdle idle]
      · rw [List.rdropWhile_concat_neg _ _ _ idle]

/-- What is not dropped ends in a move. -/
theorem exists_upToLastMove_eq {segments : List String} {moves : List Step} {s : Step}
    (walked : segments.filterMap Step.ofSegment = moves ++ [s]) :
    ∃ front last, upToLastMove segments = front ++ [last] ∧
      front.filterMap Step.ofSegment = moves := by
  have kept := (filterMap_upToLastMove segments).trans walked
  have some : upToLastMove segments ≠ [] := by
    intro none
    rw [none] at kept
    cases moves <;> cases kept
  have busy : isIdle ((upToLastMove segments).getLast some) = false :=
    Bool.eq_false_iff.mpr (List.rdropWhile_last_not isIdle segments some)
  rcases Option.isSome_iff_exists.mp (ofSegment_isSome_iff.mpr busy) with ⟨own, found⟩
  have whole := List.dropLast_append_getLast some
  rw [← whole, List.filterMap_append, List.filterMap_cons_some found, List.filterMap_nil] at kept
  exact ⟨_, _, whole.symm, (List.append_inj' kept rfl).1⟩

theorem filterMap_withoutLastMove {segments : List String} {moves : List Step} {s : Step}
    (walked : segments.filterMap Step.ofSegment = moves ++ [s]) :
    (withoutLastMove segments).filterMap Step.ofSegment = moves := by
  rcases exists_upToLastMove_eq walked with ⟨front, last, kept, others⟩
  rw [withoutLastMove, kept, List.dropLast_concat, filterMap_upToLastMove, others]

theorem mem_of_mem_withoutLastMove {segments : List String} {segment : String}
    (left : segment ∈ withoutLastMove segments) : segment ∈ segments := by
  have inner := (List.rdropWhile_prefix isIdle (upToLastMove segments).dropLast).subset left
  exact (List.rdropWhile_prefix isIdle segments).subset (List.dropLast_subset _ inner)

/-- Segments that are joined make the moves that they make one by one. -/
theorem filterMap_pieces_joined {segments : List String}
    (single : ∀ segment ∈ segments, '/' ∉ segment.toList) :
    (Text.pieces '/' (Text.joined "/" segments)).filterMap Step.ofSegment =
      segments.filterMap Step.ofSegment := by
  by_cases none : segments = []
  · subst none
    rfl
  · have parts : Text.Parts '/' (Text.joined "/" segments) segments := ⟨rfl, none, single⟩
    rw [Text.parts_iff.mp parts]

/-- An absolute path that moves at all has a parent, with all moves but the last. -/
theorem exists_parent? {p : Path} {moves : List Step} {s : Step}
    (walked : p.steps = .root :: (moves ++ [s])) :
    ∃ parent, p.parent? = some parent ∧ parent.steps = .root :: moves := by
  have rooted := isAbsolute_of_steps walked
  rcases text_of_isAbsolute rooted with ⟨rest, text⟩
  have cut : Text.pieces '/' p.text = "" :: Text.pieces '/' rest := by
    rw [text, pieces_slash]
  rw [steps_eq (written_of_isAbsolute rooted) cut] at walked
  have inside : (Text.pieces '/' rest).filterMap Step.ofSegment = moves ++ [s] :=
    (List.cons.inj walked).2
  rcases exists_upToLastMove_eq inside with ⟨front, last, kept, _⟩
  have single : ∀ segment ∈ withoutLastMove (Text.pieces '/' rest), '/' ∉ segment.toList :=
    fun segment left => Text.notMem_of_mem_pieces (mem_of_mem_withoutLastMove left)
  let parent : Path := ⟨"/" ++ Text.joined "/" (withoutLastMove (Text.pieces '/' rest))⟩
  refine ⟨parent, ?_, ?_⟩
  · unfold parent?
    rw [cut]
    split
    case h_1 alone => exact absurd (List.cons.inj alone).2 (Text.pieces_ne_nil '/' rest)
    case h_2 others heading =>
      cases heading
      rw [kept, if_neg (by simp)]
    case h_3 heading => exact absurd (List.cons.inj heading).1 (by decide)
    case h_4 _ other _ => exact absurd rfl (other _)
  · have written : parent.text ≠ "" := by simp [parent]
    rw [steps_eq written (pieces_slash _), filterMap_pieces_joined single,
      filterMap_withoutLastMove inside]
    rfl

end Path
end HostLink
