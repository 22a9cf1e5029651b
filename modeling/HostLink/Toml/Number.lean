import HostLink.Text.Digit
import HostLink.Toml.Lexical
import HostLink.Toml.Value

namespace HostLink
namespace Toml

/-!
Numbers, dates and times of a TOML document.  A part that only looks like the beginning of a
longer form is read as the shorter one; the text that is left over then fits nowhere, and the
document is refused.
-/

/-- Digits with single underscores between them, which do not count. -/
def digitsAfter (isDigit : Char → Bool) : List Char → List Char × List Char
  | [] => ([], [])
  | '_' :: c :: rest =>
      if isDigit c then
        let (found, rest) := digitsAfter isDigit rest
        (c :: found, rest)
      else ([], '_' :: c :: rest)
  | c :: rest =>
      if isDigit c then
        let (found, rest) := digitsAfter isDigit rest
        (c :: found, rest)
      else ([], c :: rest)

/-- At least one digit, and then more with single underscores between them. -/
def digits? (isDigit : Char → Bool) : List Char → Option (List Char × List Char)
  | [] => none
  | c :: rest =>
      if isDigit c then
        let (found, rest) := digitsAfter isDigit rest
        some (c :: found, rest)
      else none

/-- Digits without a zero in front, except the zero itself. -/
def wholeDigits? : List Char → Option (List Char × List Char)
  | '0' :: rest => some (['0'], rest)
  | text => digits? Char.isDigit text

/-- An optional sign: whether it is a minus. -/
def optionalSign : List Char → Bool × List Char
  | '-' :: rest => (true, rest)
  | '+' :: rest => (false, rest)
  | text => (false, text)

def valueIn (base : Nat) (digitOf : Char → Nat) (digits : List Char) : Nat :=
  digits.foldl (fun n c => n * base + digitOf c) 0

def decimalValue (digits : List Char) : Nat :=
  valueIn 10 Text.digitValue digits

/-- Integers that fit into 64 bits. -/
def integerInRange (n : Int) : Option Value :=
  if -9223372036854775808 ≤ n ∧ n ≤ 9223372036854775807 then some (.integer n) else none

def hexDigitValue (c : Char) : Nat :=
  if c.isDigit then Text.digitValue c else c.toLower.toNat - 'a'.toNat + 10

def isHexDigit (c : Char) : Bool :=
  c.isDigit || ('a' ≤ c.toLower && c.toLower ≤ 'f')

/-- An integer in a base that its first two characters name. -/
def basedInteger? (base : Nat) (isDigit : Char → Bool) (text : List Char) :
    Option (Value × List Char) := do
  let (found, rest) ← digits? isDigit text
  let value ← integerInRange (valueIn base hexDigitValue found)
  return (value, rest)

/-- An integer. -/
def readInteger? : List Char → Option (Value × List Char)
  | '0' :: 'x' :: rest => basedInteger? 16 isHexDigit rest
  | '0' :: 'o' :: rest => basedInteger? 8 (fun c => '0' ≤ c && c ≤ '7') rest
  | '0' :: 'b' :: rest => basedInteger? 2 (fun c => c == '0' || c == '1') rest
  | text => do
      let (negative, rest) := optionalSign text
      let (found, rest) ← wholeDigits? rest
      let n : Int := decimalValue found
      let value ← integerInRange (if negative then -n else n)
      return (value, rest)

/-- An exponent: its sign and its digits. -/
def exponent? : List Char → Option ((Bool × List Char) × List Char)
  | mark :: rest =>
      if mark = 'e' ∨ mark = 'E' then do
        let (negative, rest) := optionalSign rest
        let (found, rest) ← digits? Char.isDigit rest
        return ((negative, found), rest)
      else none
  | [] => none

/-- The digits behind a point. -/
def fraction? : List Char → Option (List Char × List Char)
  | '.' :: rest => digits? Char.isDigit rest
  | _ => none

/-- The first power of ten that no 64-bit floating-point number comes near. -/
def farExponent : Nat := 400

/-- Whether digits, with the last of them counting `10 ^ exponent`, are too large for a 64-bit
floating-point number: half a step beyond the largest one, or more. -/
def isTooLarge (digits : List Char) (exponent : Int) : Bool :=
  let n := decimalValue digits
  let width : Int := (digits.dropWhile (· == '0')).length
  if n = 0 ∨ exponent + width < 300 then false
  else if farExponent < exponent + width then true
  else
    let bound := (Nat.pow 2 54 - 1) * Nat.pow 2 970
    match exponent with
    | .ofNat e => bound ≤ n * Nat.pow 10 e
    | .negSucc e => bound * Nat.pow 10 (e + 1) ≤ n

/-- The parts of a number with a point or an exponent: its digits, how many of them stand
behind the point, and the exponent. -/
def realParts? (text : List Char) : Option ((List Char × Nat × Int) × List Char) := do
  let (whole, rest) ← wholeDigits? text
  let power := fun (e : Bool × List Char) =>
    let n : Int := decimalValue e.2
    if e.1 then -n else n
  match fraction? rest with
  | some (fraction, rest) =>
      match exponent? rest with
      | some (e, rest) => some ((whole ++ fraction, fraction.length, power e), rest)
      | none => some ((whole ++ fraction, fraction.length, 0), rest)
  | none => do
      let (e, rest) ← exponent? rest
      return ((whole, 0, power e), rest)

/-- The text that was read, when `rest` is left of it. -/
def readSoFar (text rest : List Char) : String :=
  String.ofList (text.take (text.length - rest.length))

/-- A number with a point or an exponent, an infinity, or the mark for no number. -/
def readReal? (text : List Char) : Option (Value × List Char) :=
  let (negative, unsigned) := optionalSign text
  match unsigned with
  | 'i' :: 'n' :: 'f' :: rest => some (.real (readSoFar text rest), rest)
  | 'n' :: 'a' :: 'n' :: rest => some (.real (readSoFar text rest), rest)
  | _ =>
      match realParts? unsigned with
      | some ((digits, places, power), rest) =>
          if !negative && isTooLarge digits (power - places) then none
          else some (.real (readSoFar text rest), rest)
      | none => none

/-- A fixed number of digits. -/
def fixedDigits? (count : Nat) (text : List Char) : Option (Nat × List Char) :=
  let found := text.take count
  if found.length = count ∧ found.all Char.isDigit then
    some (decimalValue found, text.drop count)
  else none

def isLeapYear (year : Nat) : Bool :=
  year % 4 == 0 && (year % 100 != 0 || year % 400 == 0)

def daysIn (year month : Nat) : Nat :=
  if month = 2 then if isLeapYear year then 29 else 28
  else if month = 4 ∨ month = 6 ∨ month = 9 ∨ month = 11 then 30
  else 31

/-- A number with zeros in front, so that it has a given width. -/
def padded (width n : Nat) : String :=
  let digits := toString n
  String.ofList (List.replicate (width - digits.length) '0') ++ digits

/-- A calendar date. -/
def readDate? (text : List Char) : Option (String × List Char) := do
  let (year, rest) ← fixedDigits? 4 text
  let rest ← sign? '-' rest
  let (month, rest) ← fixedDigits? 2 rest
  let rest ← sign? '-' rest
  let (day, rest) ← fixedDigits? 2 rest
  if 1 ≤ month ∧ month ≤ 12 ∧ 1 ≤ day ∧ day ≤ daysIn year month then
    some (padded 4 year ++ "-" ++ padded 2 month ++ "-" ++ padded 2 day, rest)
  else none

/-- The digits behind the point of the seconds, at most nine, without zeros at the end. -/
def fractionText (digits : List Char) : String :=
  match ((digits.take 9).reverse.dropWhile (· == '0')).reverse with
  | [] => ""
  | shown => "." ++ String.ofList shown

/-- A time of day. -/
def readTime? (text : List Char) : Option (String × List Char) := do
  let (hour, rest) ← fixedDigits? 2 text
  let rest ← sign? ':' rest
  let (minute, rest) ← fixedDigits? 2 rest
  let rest ← sign? ':' rest
  let (second, rest) ← fixedDigits? 2 rest
  if hour ≤ 23 ∧ minute ≤ 59 ∧ second ≤ 60 then
    let whole := padded 2 hour ++ ":" ++ padded 2 minute ++ ":" ++ padded 2 second
    match sign? '.' rest with
    | some behind =>
        match behind.span Char.isDigit with
        | ([], _) => some (whole, rest)
        | (digits, rest) => some (whole ++ fractionText digits, rest)
    | none => some (whole, rest)
  else none

/-- How far a time is from universal time. -/
def readOffset? : List Char → Option (String × List Char)
  | 'Z' :: rest => some ("Z", rest)
  | 'z' :: rest => some ("Z", rest)
  | mark :: rest =>
      if mark = '+' ∨ mark = '-' then do
        let (hour, rest) ← fixedDigits? 2 rest
        let rest ← sign? ':' rest
        let (minute, rest) ← fixedDigits? 2 rest
        if hour ≤ 23 ∧ minute ≤ 59 then
          let shown := if mark = '-' ∧ (hour, minute) ≠ (0, 0) then "-" else "+"
          some (shown ++ padded 2 hour ++ ":" ++ padded 2 minute, rest)
        else none
      else none
  | [] => none

/-- A time behind a date. -/
def timeAfterDate? : List Char → Option (String × List Char)
  | mark :: rest =>
      if mark = 'T' ∨ mark = 't' ∨ mark = ' ' then readTime? rest else none
  | [] => none

/-- A date, a time, or both with or without an offset, in its usual form. -/
def readDateTime? (text : List Char) : Option (Value × List Char) :=
  match readDate? text with
  | some (date, rest) =>
      match timeAfterDate? rest with
      | some (time, rest) =>
          match readOffset? rest with
          | some (offset, rest) => some (.dateTime (date ++ "T" ++ time ++ offset), rest)
          | none => some (.dateTime (date ++ "T" ++ time), rest)
      | none => some (.dateTime date, rest)
  | none => (readTime? text).map (fun r => (.dateTime r.1, r.2))

/-- A number, a date or a time. -/
def readNumber? (text : List Char) : Option (Value × List Char) :=
  (readDateTime? text).or ((readReal? text).or (readInteger? text))

end Toml
end HostLink
