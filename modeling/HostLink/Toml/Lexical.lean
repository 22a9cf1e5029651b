namespace HostLink
namespace Toml

/-!
The characters of a TOML document and what stands between its parts.  Every reader here takes
the text from a place on and gives what it read with the text that follows, or nothing if the
text does not go on that way.
-/

/-- Control characters other than the tab. -/
def isControl (c : Char) : Bool :=
  (c.toNat < 0x20 && c.toNat != 9) || c.toNat == 0x7F

/-- A space or a tab. -/
def isSpace (c : Char) : Bool :=
  c == ' ' || c == '\t'

/-- A character of a key without quotation marks. -/
def isBare (c : Char) : Bool :=
  c.isAlphanum || c == '_' || c == '-'

def skipSpaces (text : List Char) : List Char :=
  text.dropWhile isSpace

/-- A line end, alone or behind a carriage return. -/
def lineEnd? : List Char → Option (List Char)
  | '\n' :: rest => some rest
  | '\r' :: '\n' :: rest => some rest
  | _ => none

/-- The text behind a comment, if one starts here. -/
def skipComment : List Char → List Char
  | '#' :: rest => rest.dropWhile (fun c => c != '\n' && c != '\r' && !isControl c)
  | text => text

/-- The text behind a given character. -/
def sign? (c : Char) : List Char → Option (List Char)
  | [] => none
  | d :: rest => if d = c then some rest else none

/-- The rest of a line that holds nothing more: spaces, a comment, and the line end or the
end of the document. -/
def restOfLine? (text : List Char) : Option (List Char) :=
  match skipComment (skipSpaces text) with
  | [] => some []
  | rest => lineEnd? rest

/-- Spaces, line ends and comments. -/
def skipFiller : Nat → List Char → List Char
  | 0, text => text
  | fuel + 1, text =>
      let rest := skipSpaces text
      match lineEnd? (skipComment rest) with
      | some next => skipFiller fuel next
      | none => rest

end Toml
end HostLink
