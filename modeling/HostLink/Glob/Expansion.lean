import HostLink.Action
import HostLink.FileTree
import HostLink.Glob.Pattern

namespace HostLink
namespace Glob

/-!
Patterns for paths, and the paths of a tree that fit one.  A pattern is searched component by
component.  A component without wildcards is taken as it stands, so `..` and names that
no directory lists can occur; a component with wildcards goes through the names a directory
holds; `**` goes through everything below a directory.  The special names `.` and `..` fit a
component with wildcards only if it begins with a dot.

The search lists paths in the order in which it meets them, which may hold paths of the same
steps; `paths` puts them in order afterwards.
-/

/-- One component of a pattern. -/
inductive Component where
  | plain (name : String)
  | wild (tokens : List Token)
  | anyDepth
  deriving DecidableEq

namespace Component

/-- The text that the tokens stand for, if they stand for one text only. -/
def plainText? : List Token → Option (List Char)
  | [] => some []
  | .exactly c :: rest => (plainText? rest).map (c :: ·)
  | _ :: _ => none

def ofTokens (tokens : List Token) : Component :=
  if tokens.contains .anyDepth then .anyDepth
  else
    match plainText? tokens with
    | some name => .plain (String.ofList name)
    | none => .wild tokens

/-- Whether a name of a directory fits the component. -/
def fitsName (component : Component) (name : String) : Bool :=
  match component with
  | .plain text => name == text
  | .wild tokens => fits tokens name.toList
  | .anyDepth => true

/-- Components with `**` directly after `**` left out, which adds nothing. -/
def collapsed : List Component → List Component
  | .anyDepth :: .anyDepth :: rest => collapsed (.anyDepth :: rest)
  | component :: rest => component :: collapsed rest
  | [] => []

end Component

/-- A pattern that was read: where the search starts, its components, and whether only
directories count. -/
structure Query where
  start : Path
  components : List Component
  directoriesOnly : Bool

namespace Query

/-- The texts between the slashes of a pattern, behind the leading one.  A slash at the end
ends the last component and starts none. -/
def componentTexts (pattern : String) : List String :=
  let isAbsolute := Text.startsWith "/" pattern
  let relative := if isAbsolute then String.ofList (pattern.toList.drop 1) else pattern
  if relative = "" then [""]
  else
    match (Text.pieces '/' relative).reverse with
    | "" :: rest => rest.reverse
    | all => all.reverse

/-- Reads a pattern.  The pattern as a whole is read before its components, so the place of a
fault is counted from the start of the pattern if it shows there, and else from the start of
the component. -/
def read (pattern : String) : Except Fault Query := do
  let _ ← tokens pattern
  let components ← (componentTexts pattern).mapM tokens
  return {
    start := if Text.startsWith "/" pattern then ⟨"/"⟩ else ⟨"."⟩
    components := Component.collapsed (components.map Component.ofTokens)
    directoriesOnly := Text.endsWith "/" pattern }

end Query

/-- The path of a name found in a directory.  In the working directory it is the name alone. -/
def entryPath (directory : Path) (name : String) : Path :=
  if directory.steps = [.here] then ⟨name⟩ else directory.child name

/-- The path at the end of a way of names. -/
def wayPath (directory : Path) : List String → Path
  | [] => directory
  | name :: rest => rest.foldl Path.child (entryPath directory name)

/-- The names in the directory that a path denotes. -/
def namesAt (t : FileTree) (directory : Path) : List String :=
  match t.locate directory with
  | .ok location => t.names location
  | .error _ => []

/-- The ways to everything below the directory that a path denotes. -/
def waysBelow (t : FileTree) (directory : Path) : List (List String) :=
  match t.locate directory with
  | .ok location => t.below location
  | .error _ => []

/-- The special names that a component with wildcards takes. -/
def specialNames (tokens : List Token) : List String :=
  if tokens.head? = some (.exactly '.') then
    ["..", "."].filter (fun name => fits tokens name.toList)
  else []

/-- Whether a component without wildcards leads somewhere. -/
def leadsOn (t : FileTree) (directory : Path) (name : String) : Bool :=
  if name = "." ∨ name = ".." then t.isDirectory directory
  else t.present (entryPath directory name)

/-- The paths that fit the components from a directory on, in the order they are met. -/
def search (t : FileTree) (directoriesOnly : Bool) : List Component → Path → List Path
  | [], path => if directoriesOnly && !t.isDirectory path then [] else [path]
  | .plain name :: rest, directory =>
      if leadsOn t directory name then
        search t directoriesOnly rest (entryPath directory name)
      else []
  | .wild tokens :: rest, directory =>
      if t.isDirectory directory then
        (specialNames tokens).flatMap
            (fun name => search t directoriesOnly rest (directory.child name)) ++
          ((namesAt t directory).filter (fun name => fits tokens name.toList)).flatMap
            (fun name => search t directoriesOnly rest (entryPath directory name))
      else []
  | [.anyDepth], directory =>
      if t.isDirectory directory then
        ((waysBelow t directory).map (wayPath directory)).filter t.isDirectory
      else []
  | .anyDepth :: component :: rest, directory =>
      if t.isDirectory directory then
        ((waysBelow t directory).filter
            (fun way => way.getLast?.any component.fitsName)).flatMap
          (fun way => search t directoriesOnly rest (wayPath directory way))
      else []

/-- A pattern that cannot be searched for. -/
structure InvalidPattern where
  pattern : String
  fault : Fault
  deriving DecidableEq

namespace InvalidPattern

def message (e : InvalidPattern) : String :=
  "invalid glob pattern: " ++ e.pattern ++ ": " ++ e.fault.message

end InvalidPattern

/-- The paths of a tree that fit a pattern, in the order of their steps. -/
def paths (t : FileTree) (pattern : String) : Except InvalidPattern (List Path) :=
  match Query.read pattern with
  | .error fault => .error ⟨pattern, fault⟩
  | .ok query => .ok (Path.sort (search t query.directoriesOnly query.components query.start))

/-- Removes the files that the paths denote, and counts them.  What cannot be removed is
noted and stays. -/
def removeAll {ε : Type} : List Path → Action ε FileTree Nat
  | [] => Action.pure 0
  | path :: rest => do
      let t ← Action.state
      match t.remove path with
      | .ok t' =>
          Action.update (fun _ => t')
          let count ← removeAll rest
          return count + 1
      | .error cause =>
          Action.note .debug ("could not remove " ++ path.text ++ ": " ++ cause.message)
          removeAll rest

/-- Removes the files that fit a pattern, and counts them; a text that is no pattern removes
nothing. -/
def removeMatching {ε : Type} (pattern : String) : Action ε FileTree Nat := do
  let t ← Action.state
  match paths t pattern with
  | .ok found => removeAll found
  | .error e =>
      Action.note .debug ("not removing `" ++ pattern ++ "`: " ++ e.message)
      return 0

end Glob
end HostLink
