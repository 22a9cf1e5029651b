import HostLink.Machine
import HostLink.Text.Blank

namespace HostLink
namespace ToolPath

/-!
Where the programs that tool commands run are found.  A command runs its first word.  A word
that is a path of several steps is that file; any other is looked for in the directories of
the search path, and has to be executable there.
-/

/-- The path of the working directory. -/
def workPath (t : FileTree) : Path :=
  Path.ofSteps (.root :: t.workDir.map .name)

/-- A directory of the search path; `~` at its start stands for the home directory. -/
def expanded (env : Environment) (directory : Path) : Path :=
  match directory.steps, env.nonEmpty? "HOME" with
  | .name "~" :: rest, some home => rest.foldl (fun p s => p.child s.text) ⟨home⟩
  | _, _ => directory

/-- A path below the working directory, unless it is absolute already. -/
def madeAbsolute (t : FileTree) (path : Path) : Path :=
  if path.isAbsolute then path
  else Path.ofSteps ((workPath t).steps ++ path.steps.dropWhile (· = .here))

/-- The directories of the search path. -/
def directories (env : Environment) : List Path :=
  match env.find? "PATH" with
  | none => []
  | some text => (Text.pieces ':' text).map (fun directory => expanded env ⟨directory⟩)

/-- The executable file of a name in the first directory that has one. -/
def onSearchPath? (t : FileTree) (env : Environment) (program : String) : Option Path :=
  ((directories env).map (fun directory => directory.child program)).find? t.isExecutable
    |>.map (madeAbsolute t)

/-- The file that a command runs. -/
def find? (t : FileTree) (env : Environment) (command : String) : Option Path :=
  match Text.firstWord? command with
  | none => none
  | some program =>
      let path : Path := ⟨program⟩
      if 1 < path.steps.length then
        if t.isFile path then some path else none
      else onSearchPath? t env program

end ToolPath
end HostLink
