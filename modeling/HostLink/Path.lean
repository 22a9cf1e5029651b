import HostLink.KeyOrder
import HostLink.Text.Pieces

namespace HostLink

/-!
Paths, kept as the text that was written.  The text is what appears in flags and messages;
the steps read from it say where the path leads.  Two texts may have the same steps, as
`a/b` and `a//b/.` do, and the comparisons between paths look at the steps only.
-/

/-- A path as it was written. -/
structure Path where
  text : String
  deriving DecidableEq, Inhabited

namespace Path

open Text (pieces joined)

/-- One move along a path. -/
inductive Step where
  | root
  | here
  | up
  | name (text : String)
  deriving DecidableEq

namespace Step

/-- The root comes first, then `.`, then `..`, and then the names. -/
def rank : Step → Nat
  | .root => 0
  | .here => 1
  | .up => 2
  | .name _ => 3

def text : Step → String
  | .root => ""
  | .here => "."
  | .up => ".."
  | .name text => text

/-- The move a segment stands for inside a path; an empty segment and `.` are none. -/
def ofSegment : String → Option Step
  | "" => none
  | "." => none
  | ".." => some .up
  | segment => some (.name segment)

end Step

/-- Steps in the order of their kinds, names in dictionary order. -/
def stepBefore (a b : Step) : Bool :=
  decide (a.rank < b.rank) || (a.rank == b.rank && KeyOrder.before a.text b.text)

instance : KeyOrder Step where
  before := stepBefore
  irrefl a := by simp [stepBefore, KeyOrder.irrefl]
  trans a b c hab hbc := by
    simp only [stepBefore, Bool.or_eq_true, decide_eq_true_eq, Bool.and_eq_true, beq_iff_eq]
      at hab hbc ⊢
    rcases hab with hab | ⟨hab, htab⟩
    · exact Or.inl (by rcases hbc with hbc | ⟨hbc, _⟩ <;> omega)
    · rcases hbc with hbc | ⟨hbc, htbc⟩
      · exact Or.inl (by omega)
      · exact Or.inr ⟨by omega, KeyOrder.trans _ _ _ htab htbc⟩
  connected a b hab hba := by
    cases a <;> cases b <;>
      simp [stepBefore, Step.rank, Step.text, KeyOrder.irrefl] at hab hba ⊢
    exact KeyOrder.connected _ _ hab hba

def isAbsolute (p : Path) : Bool :=
  p.text.toList.head? == some '/'

/-- The moves a path makes.  A leading `.` counts, a later one does not. -/
def steps (p : Path) : List Step :=
  match pieces '/' p.text with
  | [""] => []
  | "" :: rest => .root :: rest.filterMap Step.ofSegment
  | "." :: rest => .here :: rest.filterMap Step.ofSegment
  | segments => segments.filterMap Step.ofSegment

/-- The path written with these moves. -/
def ofSteps : List Step → Path
  | [.root] => ⟨"/"⟩
  | steps => ⟨joined "/" (steps.map Step.text)⟩

/-- The second path taken from the first; an absolute path stands for itself. -/
def join (base path : Path) : Path :=
  if path.isAbsolute then path
  else if base.text = "" || Text.endsWith "/" base.text then ⟨base.text ++ path.text⟩
  else ⟨base.text ++ "/" ++ path.text⟩

/-- Joins a relative text. -/
def child (base : Path) (name : String) : Path :=
  base.join ⟨name⟩

theorem join_of_isAbsolute (base : Path) {path : Path} (h : path.isAbsolute = true) :
    base.join path = path := by
  simp [join, h]

/-- Whether a path leads below another one, or to it. -/
def isUnder (base path : Path) : Bool :=
  base.steps.isPrefixOf path.steps

@[simp]
theorem isUnder_self (p : Path) : isUnder p p = true := by
  simp [isUnder]

/-- The last name of a path, if its last move is to a name. -/
def fileName? (p : Path) : Option String :=
  match p.steps.getLast? with
  | some (.name name) => some name
  | _ => none

/-- A file name without its last extension; a dot in front starts no extension. -/
def stemOf (name : String) : String :=
  match Text.cutLast? '.' name with
  | some ("", _) => name
  | some (stem, _) => stem
  | none => name

/-- A segment that makes no move. -/
def isIdle (segment : String) : Bool :=
  segment == "" || segment == "."

/-- The segments up to and including the last that makes a move. -/
def upToLastMove (segments : List String) : List String :=
  (segments.reverse.dropWhile isIdle).reverse

/-- Without the last move, and without the idle segments before it. -/
def withoutLastMove (segments : List String) : List String :=
  upToLastMove (upToLastMove segments).dropLast

/-- The path without its last move.  The root and the empty path have none to drop. -/
def parent? (p : Path) : Option Path :=
  match pieces '/' p.text with
  | [""] => none
  | "" :: rest =>
      if (upToLastMove rest).isEmpty then none
      else some ⟨"/" ++ joined "/" (withoutLastMove rest)⟩
  | "." :: rest =>
      if (upToLastMove rest).isEmpty then some ⟨""⟩
      else some ⟨joined "/" ("." :: withoutLastMove rest)⟩
  | segments => some ⟨joined "/" (withoutLastMove segments)⟩

/-- Paths in the order of their steps; paths with the same steps stay as they are. -/
def sort (paths : List Path) : List Path :=
  paths.mergeSort (fun a b => !KeyOrder.before b.steps a.steps)

end Path

end HostLink
