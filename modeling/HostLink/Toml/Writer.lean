import HostLink.Toml.Lexical
import HostLink.Toml.Value

namespace HostLink
namespace Toml

/-!
Writing a TOML document.  Values come first, one on a line, and then the tables, each below
its header.  A text is written between quotation marks if it needs no escapes, and else
between apostrophes if it can stand there as it is; long forms come next, and escapes are the
last resort.
-/

/-- How an array of several items is written: on one line, or one item to a line. -/
inductive Style where
  | compact
  | spread
  deriving DecidableEq

/-- The longest run of a character. -/
def longestRun (c : Char) (text : List Char) : Nat :=
  (text.foldl
    (fun (longest, current) d =>
      if d = c then (max longest (current + 1), current + 1) else (longest, 0))
    (0, 0)).1

/-- Whether a character can be written by an escape only. -/
def needsEscape (c : Char) : Bool :=
  c != '\n' && isControl c

/-- The four hexadecimal digits of a small number, in capital letters. -/
def fourHexDigits (n : Nat) : List Char :=
  let digits := (Nat.toDigits 16 n).map Char.toUpper
  List.replicate (4 - digits.length) '0' ++ digits

/-- A character as it stands between quotation marks. -/
def escaped (isLong : Bool) (c : Char) : List Char :=
  if c = '\x08' then ['\\', 'b']
  else if c = '\t' then ['\\', 't']
  else if c = '\n' then if isLong then ['\n'] else ['\\', 'n']
  else if c = '\x0c' then ['\\', 'f']
  else if c = '\r' then ['\\', 'r']
  else if c = '\\' then ['\\', '\\']
  else if isControl c then ['\\', 'u'] ++ fourHexDigits c.toNat
  else [c]

/-- The characters of a text as they stand between quotation marks.  A text of several lines
may have two quotation marks next to each other as they are, any other text none. -/
def escapedBody (isLong : Bool) (marks : Nat) : List Char → List Char
  | [] => []
  | c :: rest =>
      if c = '\"' then
        if marks < (if isLong then 2 else 0) then c :: escapedBody isLong (marks + 1) rest
        else '\\' :: c :: escapedBody isLong 0 rest
      else escaped isLong c ++ escapedBody isLong 0 rest

/-- Three of a mark, with a line end behind the opening ones of a text of several lines. -/
def longForm (mark : Char) (hasLines : Bool) (body : List Char) : List Char :=
  let marks := List.replicate 3 mark
  marks ++ (if hasLines then ['\n'] else []) ++ body ++ marks

def shortForm (mark : Char) (body : List Char) : List Char :=
  [mark] ++ body ++ [mark]

/-- A text as a value. -/
def writtenText (text : List Char) : List Char :=
  let hasLines := text.contains '\n'
  let hasControls := text.any needsEscape
  let hasBackslash := text.contains '\\'
  let quotes := longestRun '\"' text
  let apostrophes := longestRun '\'' text
  if !hasControls && !hasBackslash && quotes == 0 && !hasLines then
    shortForm '\"' (escapedBody false 0 text)
  else if !hasControls && apostrophes == 0 && !hasLines then shortForm '\'' text
  else if !hasControls && !hasBackslash && quotes ≤ 2 then
    longForm '\"' hasLines (escapedBody true 0 text)
  else if !hasControls && apostrophes ≤ 2 then longForm '\'' hasLines text
  else if hasLines then longForm '\"' true (escapedBody true 0 text)
  else shortForm '\"' (escapedBody false 0 text)

/-- A key. -/
def writtenKey (key : List Char) : List Char :=
  let hasControls := key.any isControl
  if !key.isEmpty && key.all isBare then key
  else if !hasControls && !key.contains '\\' && !key.contains '\"' then
    shortForm '\"' (escapedBody false 0 key)
  else if !hasControls && !key.contains '\'' then shortForm '\'' key
  else shortForm '\"' (escapedBody false 0 key)

def boolText (b : Bool) : String :=
  if b then "true" else "false"

mutual

/-- A value on one line. -/
def Value.written : Value → List Char
  | .text s => writtenText s.toList
  | .integer n => (toString n).toList
  | .real written => written.toList
  | .boolean b => (boolText b).toList
  | .dateTime written => written.toList
  | .array items => ['['] ++ writtenItems items ++ [']']
  | .table members => ['\x7b', ' '] ++ writtenMembers members ++ [' ', '\x7d']

def writtenItems : List Value → List Char
  | [] => []
  | [item] => item.written
  | item :: rest => item.written ++ [',', ' '] ++ writtenItems rest

def writtenMembers : List (String × Value) → List Char
  | [] => []
  | [(key, v)] => writtenKey key.toList ++ [' ', '=', ' '] ++ v.written
  | (key, v) :: rest =>
      writtenKey key.toList ++ [' ', '=', ' '] ++ v.written ++ [',', ' '] ++ writtenMembers rest

end

/-- A value, with an array of several items spread over lines if the style asks for it. -/
def styled (style : Style) (v : Value) : List Char :=
  match style, v with
  | .spread, .array (first :: second :: rest) =>
      ['[', '\n'] ++
        (first :: second :: rest).flatMap
          (fun item => "    ".toList ++ item.written ++ [',', '\n']) ++
        [']']
  | _, v => v.written

def isTable : Value → Bool
  | .table _ => true
  | _ => false

/-- The lines of the members that are no tables. -/
def writtenLines (style : Style) (members : Members) : List Char :=
  (members.filter (fun m => !isTable m.2)).flatMap
    (fun m => writtenKey m.1.toList ++ [' ', '=', ' '] ++ styled style m.2 ++ ['\n'])

/-- A table below its header, with an empty line before it. -/
def writtenTable (style : Style) (key : String) (members : Members) : List Char :=
  ['\n', '['] ++ writtenKey key.toList ++ [']', '\n'] ++
    members.flatMap
      (fun m => writtenKey m.1.toList ++ [' ', '=', ' '] ++ styled style m.2 ++ ['\n'])

/-- A document with the given members.  Tables inside tables are written on one line. -/
def render (style : Style) (members : Members) : String :=
  String.ofList
    (writtenLines style members ++
      members.flatMap (fun m =>
        match m.2 with
        | .table inner => writtenTable style m.1 inner
        | _ => []))

end Toml
end HostLink
