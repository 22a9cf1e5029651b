import HostLink.Program.Places

/-!
The program.  It looks at the places that a run names, runs on what it saw there, and prints
what the run says.
-/

namespace HostLink
namespace Disk

/-- A place on the disk. -/
def place (path : Path) : IO.FS.DirEntry :=
  ⟨⟨"/"⟩, path.text⟩

/-- What is at a place, with its content if that is wanted. -/
def entryOf? (path : Path) (look : Program.Look) : IO (Option Entry) := do
  try
    match (← (place path).path.metadata).type with
    | .dir => return some .directory
    | .file =>
        let bytes ←
          if look = .content then IO.FS.readBinFile (place path).path else pure ByteArray.empty
        return some (.file bytes.toList (look = .program))
    | _ => return none
  catch _ => return none

/-- Takes an entry into a tree, with the directories on the way to it. -/
def taken (t : FileTree) (location : Location) (entry : Entry) : FileTree :=
  let grown :=
    match entry with
    | .directory => t.makeDirectories? [] location
    | .file content executable => t.putFile? location content executable
  grown.getD t

/-- Takes an entry into a tree, unless more is known about its place already. -/
def takenIfNew (t : FileTree) (location : Location) (entry : Entry) : FileTree :=
  if (t.entryAt location).isSome then t else taken t location entry

/-- The location of an absolute path. -/
def locationOf (path : Path) : Location :=
  path.steps.filterMap (fun step =>
    match step with
    | .name text => some text
    | _ => none)

/-- The names in a directory. -/
def namesIn (path : Path) : IO (List String) := do
  try
    return ((← (place path).path.readDir).map (fun entry => entry.fileName)).toList
  catch _ => return []

/-- A tree with what is at a place.  The file system does not tell which files can be run; a
file where a program is looked for counts as one. -/
def look (work : Path) (t : FileTree) (wanted : Program.Place) : IO FileTree := do
  let path := Path.absolute work wanted.path
  match ← entryOf? path wanted.look with
  | none => return t
  | some entry =>
      let t := (if wanted.look = .kind then takenIfNew else taken) t (locationOf path) entry
      let names ← if wanted.look = .names then namesIn path else pure []
      names.foldlM
        (fun t name => do
          let child := path.child name
          let found ← entryOf? child .kind
          return (found.map (takenIfNew t (locationOf child))).getD t)
        t

/-- A tree with everything that a run looks at. -/
def snapshot (work : Path) (env : Environment) (words : List String) :
    Nat → FileTree → IO FileTree
  | 0, t => return t
  | rounds + 1, t => do
      let t ← (Program.places t env words).foldlM (look work) t
      snapshot work env words rounds t

/-- The variables of the environment on which a run depends. -/
def environment : IO Environment := do
  let found ← Program.variablesRead.filterMapM (fun name => do
    return (← IO.getEnv name).map (fun value => (name, value)))
  return OrderedMap.ofList found

end Disk
end HostLink

open HostLink in
def main (words : List String) : IO UInt32 := do
  let env ← Disk.environment
  let work : Path := ⟨(← IO.currentDir).toString⟩
  let start := Disk.taken FileTree.empty (Disk.locationOf work) .directory
  let start := { start with workDir := Disk.locationOf work }
  let t ← Disk.snapshot work env words Program.rounds start
  let finish := Program.run t env words
  (← IO.getStderr).putStr finish.errors
  (← IO.getStdout).putStr finish.output
  return finish.status.toUInt32
