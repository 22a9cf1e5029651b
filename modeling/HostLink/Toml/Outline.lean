import HostLink.Toml.Value

namespace HostLink
namespace Toml

/-!
A document while it is read.  A table can be opened by a header of its own, be implied by the
header of a table inside it, or be made by a dotted key.  How it came about decides whether
it can be opened again: an implied table can get a header later, a dotted one can get
further dotted keys, and a table with a header is closed to both.  Values, inline tables among
them, are closed to everything.
-/

/-- How a table came about. -/
inductive Origin where
  | header
  | implied
  | dotted
  deriving DecidableEq

/-- What a key stands for. -/
inductive Node where
  | value (v : Value)
  | table (origin : Origin) (members : List (String × Node))
  /-- A list of tables with headers, the newest first, and the table before them all. -/
  | tables (newest : List (String × Node)) (older : List (List (String × Node)))

/-- The members of a table while it is read. -/
abbrev Outline := List (String × Node)

namespace Outline

def find? (o : Outline) (key : String) : Option Node :=
  (List.find? (fun m => m.1 == key) o).map Prod.snd

/-- Puts a node in the place of that of the same key. -/
def replace (o : Outline) (key : String) (node : Node) : Outline :=
  o.map (fun m => if m.1 == key then (key, node) else m)

/-- Changes the table at the end of a path of keys.  Tables that are missing on the way are
made; a list of tables is entered at its newest.  With `dotted`, the path is that of a dotted
key, and a table with a header is in its way. -/
def change (dotted : Bool) (f : Origin → Outline → Option Outline) :
    List String → Origin → Outline → Option Outline
  | [], origin, o => f origin o
  | key :: rest, _, o =>
      match o.find? key with
      | none => do
          let made : Origin := if dotted then .dotted else .implied
          let child ← change dotted f rest made []
          return o ++ [(key, .table made child)]
      | some (.value _) => none
      | some (.table origin members) =>
          if dotted && origin == .header then none
          else do
            let child ← change dotted f rest origin members
            return o.replace key (.table origin child)
      | some (.tables newest older) => do
          let child ← change dotted f rest .header newest
          return o.replace key (.tables child older)

/-- Adds a value under a dotted key, given as the path before its last part and that part.
The table that gets the value must have been made by dotted keys if there is a path, and else
must not. -/
def addValue (path : List String) (key : String) (v : Value) (o : Outline) : Option Outline :=
  change true
    (fun origin members =>
      if (origin == .dotted) == path.isEmpty then none
      else if (members.find? key).isSome then none
      else some (members ++ [(key, .value v)]))
    path .header o

/-- Opens a table by its header. -/
def openTable (path : List String) (key : String) (o : Outline) : Option Outline :=
  change false
    (fun _ members =>
      match members.find? key with
      | none => some (members ++ [(key, .table .header [])])
      | some (.table .implied inner) => some (members.replace key (.table .header inner))
      | some _ => none)
    path .header o

/-- Opens the next table of a list of tables by its header. -/
def openNext (path : List String) (key : String) (o : Outline) : Option Outline :=
  change false
    (fun _ members =>
      match members.find? key with
      | none => some (members ++ [(key, .tables [] [])])
      | some (.tables newest older) =>
          some (members.replace key (.tables [] (newest :: older)))
      | some _ => none)
    path .header o

/-- Adds a value to the table that a header opened. -/
def addBelow (header path : List String) (key : String) (v : Value) (o : Outline) :
    Option Outline :=
  change false (fun _ members => addValue path key v members) header .header o

end Outline

mutual

/-- The value that a node has become. -/
def Node.toValue : Node → Value
  | .value v => v
  | .table _ members => .table (Outline.toMembers members)
  | .tables newest older => .array (Outline.toTables older ++ [.table (Outline.toMembers newest)])

def Outline.toMembers : List (String × Node) → Members
  | [] => []
  | (key, node) :: rest => (key, node.toValue) :: Outline.toMembers rest

/-- The older tables of a list, the oldest first. -/
def Outline.toTables : List (List (String × Node)) → List Value
  | [] => []
  | members :: older => Outline.toTables older ++ [.table (Outline.toMembers members)]

end

end Toml
end HostLink
