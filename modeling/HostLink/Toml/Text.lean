import HostLink.Toml.Lexical

namespace HostLink
namespace Toml

/-!
Texts of a TOML document.  A text stands between quotation marks, with escapes, or between
apostrophes, as it is; three of either mark enclose a text of several lines.  A line end in a
text counts as one newline character however it is written.
-/

/-- The character that a letter behind a backslash stands for. -/
def escape? : Char → Option Char
  | 'b' => some '\x08'
  | 't' => some '\t'
  | 'n' => some '\n'
  | 'f' => some '\x0c'
  | 'r' => some '\r'
  | '\"' => some '\"'
  | '\\' => some '\\'
  | _ => none

def hexValue? (c : Char) : Option Nat :=
  if c.isDigit then some (c.toNat - '0'.toNat)
  else if 'a' ≤ c ∧ c ≤ 'f' then some (c.toNat - 'a'.toNat + 10)
  else if 'A' ≤ c ∧ c ≤ 'F' then some (c.toNat - 'A'.toNat + 10)
  else none

/-- The character whose code point is given in hexadecimal digits. -/
def charOfHex? (digits : List Char) : Option Char := do
  let values ← digits.mapM hexValue?
  let code := values.foldl (fun n v => n * 16 + v) 0
  if h : code.isValidChar then some (Char.ofNatAux code h) else none

/-- A character in front of what was read. -/
def put (c : Char) (reading : Option (List Char × List Char)) : Option (List Char × List Char) :=
  reading.map (fun r => (c :: r.1, r.2))

/-- A text on one line with escapes, behind its opening quotation mark. -/
def basicBody : List Char → Option (List Char × List Char)
  | [] => none
  | '\"' :: rest => some ([], rest)
  | '\\' :: 'u' :: a :: b :: c :: d :: rest =>
      (charOfHex? [a, b, c, d]).bind (fun e => put e (basicBody rest))
  | '\\' :: 'U' :: a :: b :: c :: d :: e :: f :: g :: h :: rest =>
      (charOfHex? [a, b, c, d, e, f, g, h]).bind (fun x => put x (basicBody rest))
  | '\\' :: e :: rest => (escape? e).bind (fun c => put c (basicBody rest))
  | c :: rest => if isControl c then none else put c (basicBody rest)

/-- Whether only spaces are left of a line. -/
def lineIsOver (text : List Char) : Bool :=
  (lineEnd? (skipSpaces text)).isSome

/-- A text of several lines with escapes, behind its opening marks.  A backslash at the end of
a line takes away the line end and all spaces and line ends that follow; `skipping` says that
this goes on.  Three marks end the text, and up to two more before them belong to it. -/
def longBasicBody (skipping : Bool) : List Char → Option (List Char × List Char)
  | [] => none
  | '\r' :: '\n' :: rest =>
      if skipping then longBasicBody true rest else put '\n' (longBasicBody false rest)
  | '\n' :: rest =>
      if skipping then longBasicBody true rest else put '\n' (longBasicBody false rest)
  | '\"' :: '\"' :: '\"' :: '\"' :: '\"' :: rest => some (['\"', '\"'], rest)
  | '\"' :: '\"' :: '\"' :: '\"' :: rest => some (['\"'], rest)
  | '\"' :: '\"' :: '\"' :: rest => some ([], rest)
  | '\\' :: 'u' :: a :: b :: c :: d :: rest =>
      (charOfHex? [a, b, c, d]).bind (fun e => put e (longBasicBody false rest))
  | '\\' :: 'U' :: a :: b :: c :: d :: e :: f :: g :: h :: rest =>
      (charOfHex? [a, b, c, d, e, f, g, h]).bind (fun x => put x (longBasicBody false rest))
  | '\\' :: e :: rest =>
      match escape? e with
      | some c => put c (longBasicBody false rest)
      | none => if lineIsOver (e :: rest) then longBasicBody true (e :: rest) else none
  | c :: rest =>
      if isControl c then none
      else if skipping && isSpace c then longBasicBody true rest
      else put c (longBasicBody false rest)

/-- A text on one line as it is, behind its opening apostrophe. -/
def literalBody : List Char → Option (List Char × List Char)
  | [] => none
  | '\'' :: rest => some ([], rest)
  | c :: rest => if isControl c then none else put c (literalBody rest)

/-- A text of several lines as it is, behind its opening marks. -/
def longLiteralBody : List Char → Option (List Char × List Char)
  | [] => none
  | '\r' :: '\n' :: rest => put '\n' (longLiteralBody rest)
  | '\n' :: rest => put '\n' (longLiteralBody rest)
  | '\'' :: '\'' :: '\'' :: '\'' :: '\'' :: rest => some (['\'', '\''], rest)
  | '\'' :: '\'' :: '\'' :: '\'' :: rest => some (['\''], rest)
  | '\'' :: '\'' :: '\'' :: rest => some ([], rest)
  | c :: rest => if isControl c then none else put c (longLiteralBody rest)

/-- The text behind a line end, if it starts with one. -/
def withoutLineEnd (text : List Char) : List Char :=
  (lineEnd? text).getD text

/-- Any of the four kinds of text. -/
def readText? : List Char → Option (List Char × List Char)
  | '\"' :: '\"' :: '\"' :: rest => longBasicBody false (withoutLineEnd rest)
  | '\"' :: rest => basicBody rest
  | '\'' :: '\'' :: '\'' :: rest => longLiteralBody (withoutLineEnd rest)
  | '\'' :: rest => literalBody rest
  | _ => none

/-- A part of a key: a text on one line, or characters that need no quotation marks. -/
def readKeyPart? (text : List Char) : Option (String × List Char) :=
  match text with
  | '\"' :: rest => (basicBody rest).map (fun r => (String.ofList r.1, r.2))
  | '\'' :: rest => (literalBody rest).map (fun r => (String.ofList r.1, r.2))
  | _ =>
      match text.span isBare with
      | ([], _) => none
      | (name, rest) => some (String.ofList name, rest)

end Toml
end HostLink
