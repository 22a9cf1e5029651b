import HostLink.Host
import HostLink.Proofs.Path.Absolute
import HostLink.Resolution.Context

namespace HostLink
namespace Path

/-!
# Paths that stay as they are

A path that was made absolute once holds nothing that could still be settled: it goes from the
root, perhaps after one attempt to leave it, from name to name.  So it does not matter from which
root it is taken the next time, and every step of a machine and of a resolution uses it as it is.
-/

/-- From the root, a stack of settled moves goes from name to name, at most after one `..`. -/
theorem Anchored.exists_names {stack : List Step} (anchored : Anchored stack) :
    ∃ names : List String, (∀ name ∈ names, (Step.name name).Inner) ∧
      (stack.reverse = .root :: names.map .name ∨
        stack.reverse = .root :: .up :: names.map .name) := by
  induction anchored with
  | root => exact ⟨[], nofun, Or.inl rfl⟩
  | beyond => exact ⟨[], nofun, Or.inr rfl⟩
  | @name name stack inner below inductionHypothesis =>
      rcases inductionHypothesis with ⟨names, others, walked⟩
      refine ⟨names ++ [name], ?_, ?_⟩
      · intro other listed
        rcases List.mem_append.mp listed with former | added
        · exact others other former
        · rw [List.mem_singleton.mp added]
          exact inner
      · rw [List.reverse_cons, List.map_append]
        rcases walked with same | same
        · exact Or.inl (by rw [same]; rfl)
        · exact Or.inr (by rw [same]; rfl)

theorem Anchored.steps_ofSteps {stack : List Step} (anchored : Anchored stack) :
    (ofSteps stack.reverse).steps = stack.reverse := by
  rcases anchored.reverse_eq with ⟨moves, begins, inner⟩
  rw [begins]
  exact steps_ofSteps_root inner

/-- Once is enough: from whatever root it is taken, a path that was made absolute stays. -/
theorem absolute_absolute {root : Path} (rooted : root.isAbsolute = true) (path root' : Path) :
    absolute root' (absolute root path) = absolute root path := by
  rcases exists_anchored_absolute rooted path with ⟨stack, anchored, same⟩
  rw [same]
  exact anchored.absolute_ofSteps root'

/-- Taken from an absolute root, a path becomes absolute and is written as its moves are: from
the root, perhaps after one `..`, from name to name.  Whatever root it is taken from afterwards,
it stays as it is, and so do the steps of a machine and of a resolution that use it. -/
theorem settled_once {root : Path} (rooted : root.isAbsolute = true) (path : Path) :
    (absolute root path).isAbsolute = true ∧
      absolute root path = ofSteps (absolute root path).steps ∧
      (∃ names : List String, (∀ name ∈ names, (Step.name name).Inner) ∧
        ((absolute root path).steps = .root :: names.map .name ∨
          (absolute root path).steps = .root :: .up :: names.map .name)) ∧
      (∀ root', absolute root' (absolute root path) = absolute root path) ∧
      (∀ c : Context, c.absolute (absolute root path) = absolute root path) ∧
      (∀ root' component,
        Host.require root' (absolute root path) component = Host.require root path component) ∧
      (∀ root' l, Host.relocate root' l (absolute root path) = Host.relocate root l path) ∧
      (∀ root', Host.findCvode root' (absolute root path) = Host.findCvode root path) ∧
      ∀ root', Host.removeMatching root' (absolute root path).text =
        Action.onPart Host.tree (fun t h => { h with tree := t })
          (Glob.removeMatching (absolute root path).text) := by
  have stays := absolute_absolute rooted path
  have starts := isAbsolute_absolute rooted path
  rcases exists_anchored_absolute rooted path with ⟨stack, anchored, same⟩
  have steps : (absolute root path).steps = stack.reverse := by
    rw [same]
    exact anchored.steps_ofSteps
  refine ⟨starts, ?_, ?_, stays, fun c => stays c.root, ?_, ?_, ?_, ?_⟩
  · rw [steps]
    exact same
  · rw [steps]
    exact anchored.exists_names
  · intro root' component
    unfold Host.require
    rw [stays]
  · intro root' l
    unfold Host.relocate
    rw [stays]
  · intro root'
    unfold Host.findCvode
    rw [stays]
  · intro root'
    unfold Host.removeMatching
    rw [join_of_isAbsolute root' starts]

/-- A path that tries to leave the root of all directories is settled once, too. -/
theorem settled_once_beyond :
    (⟨"/home/user"⟩ : Path).isAbsolute = true ∧
      absolute ⟨"/home/user"⟩ ⟨"../../../opt/./x/../boost/"⟩ = ⟨"/../opt/boost"⟩ ∧
      ∀ root', absolute root' ⟨"/../opt/boost"⟩ = ⟨"/../opt/boost"⟩ := by
  have rooted : (⟨"/home/user"⟩ : Path).isAbsolute = true := by decide
  have settles : absolute ⟨"/home/user"⟩ ⟨"../../../opt/./x/../boost/"⟩ = ⟨"/../opt/boost"⟩ := by
    decide
  rcases settled_once rooted ⟨"../../../opt/./x/../boost/"⟩ with ⟨_, _, _, stays, _⟩
  rw [settles] at stays
  exact ⟨rooted, settles, stays⟩

end Path
end HostLink
