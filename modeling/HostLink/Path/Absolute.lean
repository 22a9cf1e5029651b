import HostLink.Path

namespace HostLink
namespace Path

/-!
Paths made absolute.  A path is taken from a root directory, and the moves `.` and `..` are
settled on its text alone, without a look at any directory.  What is settled is a stack of
moves, the last one on top: a name is put on it, `.` leaves it alone, and `..` takes the top
off.  Where nothing can be taken off, at the root of all directories or at the start of a
relative path, `..` stays as a move of its own.
-/

/-- The stack after one more move. -/
def settle (stack : List Step) : Step → List Step
  | .here => stack
  | .up =>
      match stack with
      | [] => [.up]
      | [.root] => [.up, .root]
      | _ :: rest => rest
  | step => step :: stack

/-- The moves that are left of a list of moves, in their order. -/
def settled (steps : List Step) : List Step :=
  (steps.foldl settle []).reverse

/-- A path made absolute from a root and settled. -/
def absolute (root path : Path) : Path :=
  ofSteps (settled (root.join path).steps)

theorem absolute_of_isAbsolute (root root' : Path) {path : Path}
    (h : path.isAbsolute = true) : absolute root path = absolute root' path := by
  simp [absolute, join_of_isAbsolute, h]

end Path
end HostLink
