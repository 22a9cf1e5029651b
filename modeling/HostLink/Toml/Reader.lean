import HostLink.Toml.Number
import HostLink.Toml.Outline
import HostLink.Toml.Text

namespace HostLink
namespace Toml

/-!
Reading a TOML document.  A document is a list of lines, each with a key and a value, a
header, or nothing; arrays and long texts go over several lines.  Arrays and inline tables may
stand inside one another up to a fixed depth, and a dotted key may have up to a fixed number
of parts.

A text that is no document is refused as a whole; the reason is not told.
-/

/-- One more than the greatest depth of arrays and inline tables, and one more than the
greatest number of parts of a dotted key. -/
def depthBound : Nat := 80

/-- The parts of a dotted key, with the text behind it. -/
def readKeyParts? : Nat → List Char → Option (List String × List Char)
  | 0, _ => none
  | fuel + 1, text => do
      let (part, rest) ← readKeyPart? (skipSpaces text)
      let rest := skipSpaces rest
      match sign? '.' rest with
      | some rest => do
          let (parts, rest) ← readKeyParts? fuel rest
          return (part :: parts, rest)
      | none => return ([part], rest)

/-- A dotted key: the parts before the last one, and the last one. -/
def readKey? (text : List Char) : Option ((List String × String) × List Char) := do
  let (parts, rest) ← readKeyParts? (depthBound - 1) text
  let last ← parts.getLast?
  return ((parts.dropLast, last), rest)

/-- The items of an array behind its bracket or a comma, up to the closing bracket. -/
def readItems? (readItem? : List Char → Option (Value × List Char)) :
    Nat → List Char → Option (List Value × List Char)
  | 0, _ => none
  | fuel + 1, text => do
      let text := skipFiller text.length text
      match sign? ']' text with
      | some rest => return ([], rest)
      | none => do
          let (item, rest) ← readItem? text
          let rest := skipFiller rest.length rest
          match sign? ',' rest with
          | some rest => do
              let (items, rest) ← readItems? readItem? fuel rest
              return (item :: items, rest)
          | none => do
              let rest ← sign? ']' rest
              return ([item], rest)

/-- The members of an inline table, each with its dotted key, up to the closing brace. -/
def readInline? (readItem? : List Char → Option (Value × List Char)) :
    Nat → List Char → Option (List ((List String × String) × Value) × List Char)
  | 0, _ => none
  | fuel + 1, text => do
      let (key, rest) ← readKey? text
      let rest ← sign? '=' rest
      let (item, rest) ← readItem? (skipSpaces rest)
      let rest := skipSpaces rest
      match sign? ',' rest with
      | some rest => do
          let (members, rest) ← readInline? readItem? fuel rest
          return ((key, item) :: members, rest)
      | none => do
          let rest ← sign? '\x7d' rest
          return ([(key, item)], rest)

/-- The table with the given members. -/
def inlineTable? (members : List ((List String × String) × Value)) : Option Value := do
  let o ← members.foldlM (fun o m => Outline.addValue m.1.1 m.1.2 m.2 o) ([] : Outline)
  return .table (Outline.toMembers o)

/-- A value inside so many arrays and inline tables that `depth` is left for it. -/
def readValue? : Nat → List Char → Option (Value × List Char)
  | 0, _ => none
  | depth + 1, text =>
      match text with
      | '\"' :: _ => (readText? text).map (fun r => (.text (String.ofList r.1), r.2))
      | '\'' :: _ => (readText? text).map (fun r => (.text (String.ofList r.1), r.2))
      | '[' :: rest =>
          if depth = 0 then none
          else do
            let (items, rest) ← readItems? (readValue? depth) (rest.length + 1) rest
            return (.array items, rest)
      | '\x7b' :: rest =>
          if depth = 0 then none
          else
            match sign? '\x7d' (skipSpaces rest) with
            | some rest => some (.table [], rest)
            | none => do
                let (members, rest) ← readInline? (readValue? depth) (rest.length + 1) rest
                let table ← inlineTable? members
                return (table, rest)
      | 't' :: 'r' :: 'u' :: 'e' :: rest => some (.boolean true, rest)
      | 'f' :: 'a' :: 'l' :: 's' :: 'e' :: rest => some (.boolean false, rest)
      | _ => readNumber? text

/-- A document while it is read: what there is of it, and the header of the open table. -/
structure Draft where
  outline : Outline
  header : List String

/-- A header in brackets, single or double, with the text behind it. -/
def readHeader? (d : Draft) (text : List Char) : Option (Draft × List Char) := do
  let isNext := (sign? '[' text).isSome
  let text := (sign? '[' text).getD text
  let ((path, key), rest) ← readKey? text
  let rest ← sign? ']' rest
  let rest ← if isNext then sign? ']' rest else some rest
  let outline ←
    if isNext then Outline.openNext path key d.outline
    else Outline.openTable path key d.outline
  return (⟨outline, path ++ [key]⟩, rest)

/-- A key and its value, with the text behind them. -/
def readMember? (d : Draft) (text : List Char) : Option (Draft × List Char) := do
  let ((path, key), rest) ← readKey? text
  let rest ← sign? '=' rest
  let (v, rest) ← readValue? depthBound (skipSpaces rest)
  let outline ← Outline.addBelow d.header path key v d.outline
  return ({ d with outline := outline }, rest)

/-- The lines of a document. -/
def readLines? : Nat → Draft → List Char → Option Draft
  | 0, _, _ => none
  | fuel + 1, d, text =>
      match skipSpaces text with
      | [] => some d
      | '[' :: rest => do
          let (d, rest) ← readHeader? d rest
          let rest ← restOfLine? rest
          readLines? fuel d rest
      | rest =>
          match lineEnd? (skipComment rest) with
          | some next => readLines? fuel d next
          | none =>
              if (skipComment rest).isEmpty then some d
              else do
                let (d, rest) ← readMember? d rest
                let rest ← restOfLine? rest
                readLines? fuel d rest

/-- The members of a document. -/
def read? (text : String) : Option Members := do
  let text :=
    match text.toList with
    | '\uFEFF' :: rest => rest
    | all => all
  let d ← readLines? (text.length + 1) ⟨[], []⟩ text
  return Outline.toMembers d.outline

end Toml
end HostLink
