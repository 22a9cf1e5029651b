import HostLink.Text.Pieces
import HostLink.Text.Quoted

namespace HostLink
namespace Report

/-!
JSON documents as they are printed: one member or item to a line, indented by two spaces for
each level, and nothing between the brackets of what is empty.
-/

/-- A JSON document without numbers. -/
inductive Json where
  | null
  | text (value : String)
  | list (items : List Json)
  | record (members : List (String × Json))

namespace Json

/-- Four hexadecimal digits of a small number. -/
def fourDigits (n : Nat) : List Char :=
  let digits := Text.hexDigits n
  List.replicate (4 - digits.length) '0' ++ digits

/-- A character inside a text.  Control characters have escapes, and so do the quotation mark
and the backslash; all others stand for themselves. -/
def escaped (c : Char) : List Char :=
  if c = '\"' ∨ c = '\\' then ['\\', c]
  else if c = '\x08' then ['\\', 'b']
  else if c = '\x0c' then ['\\', 'f']
  else if c = '\n' then ['\\', 'n']
  else if c = '\r' then ['\\', 'r']
  else if c = '\t' then ['\\', 't']
  else if c.toNat < 32 then ['\\', 'u'] ++ fourDigits c.toNat
  else [c]

/-- A text between quotation marks. -/
def quoted (text : String) : String :=
  String.ofList (['\"'] ++ text.toList.flatMap escaped ++ ['\"'])

/-- A list of texts. -/
def texts (values : List String) : Json :=
  .list (values.map .text)

def indentation (level : Nat) : String :=
  String.ofList (List.replicate (2 * level) ' ')

/-- Lines at a level between brackets, with commas behind all but the last. -/
def bracketed (opening closing : String) (level : Nat) (lines : List String) : String :=
  match lines with
  | [] => opening ++ closing
  | _ =>
      opening ++ "\n" ++
        Text.joined ",\n" (lines.map (indentation (level + 1) ++ ·)) ++
        "\n" ++ indentation level ++ closing

mutual

/-- A document inside others, at the level of their number. -/
def printed (level : Nat) : Json → String
  | .null => "null"
  | .text value => quoted value
  | .list items => bracketed "[" "]" level (printedItems (level + 1) items)
  | .record members => bracketed "\x7b" "\x7d" level (printedMembers (level + 1) members)

def printedItems (level : Nat) : List Json → List String
  | [] => []
  | item :: rest => printed level item :: printedItems level rest

def printedMembers (level : Nat) : List (String × Json) → List String
  | [] => []
  | (key, value) :: rest =>
      (quoted key ++ ": " ++ printed level value) :: printedMembers level rest

end

/-- The text of a document. -/
def render (document : Json) : String :=
  printed 0 document

end Json

end Report
end HostLink
