import HostLink.Glob.Expansion
import HostLink.Misconfiguration
import HostLink.Text.Digit

namespace HostLink
namespace Boost

/-!
The two things about an installation of Boost that depend on how it was built.  From version
1.40 on the headers lie directly below the directory of headers, before that in a directory
of their own.  The names of the libraries carry the tools they were built with, as in
`libboost_serialization-gcc43-mt.so`; this suffix is read off the files that are there.

A version counts as the number that its first four characters write, so that `1.33.1` is
1.33.
-/

/-- A number written with an optional point and exponent: its digits as one number, and the
power of ten to which they belong. -/
structure Decimal where
  digits : Nat
  exponent : Int
  deriving DecidableEq

/-- What a text writes as a number. -/
inductive Number where
  | notANumber
  | infinite (negative : Bool)
  | finite (negative : Bool) (magnitude : Decimal)
  deriving DecidableEq

namespace Number

/-- A sign in front of a text; without one the number is positive. -/
def sign : List Char → Bool × List Char
  | '-' :: rest => (true, rest)
  | '+' :: rest => (false, rest)
  | text => (false, text)

/-- An exponent at the end of a number; none counts as zero. -/
def exponent? : List Char → Option Int
  | [] => some 0
  | mark :: rest =>
      if mark = 'e' ∨ mark = 'E' then
        let (negative, digits) := sign rest
        (Text.decimal? digits).map (fun n => if negative then -(n : Int) else (n : Int))
      else none

/-- Digits with an optional point among them, at least one digit in all, and an optional
exponent. -/
def decimal? (text : List Char) : Option Decimal := do
  let (whole, rest) := text.span Char.isDigit
  let (fraction, rest) :=
    match rest with
    | '.' :: rest => rest.span Char.isDigit
    | _ => ([], rest)
  let digits ← Text.decimal? (whole ++ fraction)
  let exponent ← exponent? rest
  return ⟨digits, exponent - fraction.length⟩

def ofText? (text : String) : Option Number :=
  let (negative, rest) := sign text.toList
  match String.ofList (rest.map Char.toLower) with
  | "nan" => some .notANumber
  | "inf" => some (.infinite negative)
  | "infinity" => some (.infinite negative)
  | _ => (decimal? rest).map (fun magnitude => .finite negative magnitude)

/-- Whether the number is at least `tenths` tenths. -/
def atLeastTenths (tenths : Nat) : Number → Bool
  | .notANumber => false
  | .infinite negative => !negative
  | .finite negative magnitude =>
      if negative then tenths == 0 && magnitude.digits == 0
      else
        match magnitude.exponent with
        | .ofNat e => tenths ≤ magnitude.digits * Nat.pow 10 e * 10
        | .negSucc e => tenths * Nat.pow 10 (e + 1) ≤ magnitude.digits * 10

end Number

/-- The characters of a version that count. -/
def versionHead (version : String) : String :=
  Text.leading 4 version

/-- Whether a version has its headers directly below the directory of headers. -/
def hasFlatHeaders (version : String) : Except Misconfiguration Bool :=
  match Number.ofText? (versionHead version) with
  | some number => .ok (number.atLeastTenths 14)
  | none => .error (.invalidVersion "Boost" version)

/-- The directory of headers of a version. -/
def headerPath (base : Path) (version : String) (flat : Bool) : Path :=
  if flat then base.child "include"
  else (base.child "include").child ("boost-" ++ Text.replaceChar '.' '_' version)

/-- The library whose files show the suffix. -/
def library : String := "boost_serialization"

/-- How the names of its files begin. -/
def fileStem : String := "lib" ++ library

/-- The pattern that the library files with an extension fit. -/
def filePattern (libPath : Path) (extension : String) : String :=
  Glob.escaped (libPath.child fileStem).text ++ "*." ++ extension

/-- The first library file with an extension. -/
def firstFile? (t : FileTree) (libPath : Path) (extension : String) :
    Except Misconfiguration (Option Path) :=
  match Glob.paths t (filePattern libPath extension) with
  | .ok found => .ok found.head?
  | .error e =>
      .error (.libraryNotFound "Boost" (library ++ " (" ++ e.message ++ ")") libPath)

/-- What a file name has between its known beginning and its extension. -/
def suffixIn (fileName : String) : String :=
  match (Text.after? fileStem fileName).bind (Text.cutLast? '.') with
  | some (suffix, _) => suffix
  | none => ""

/-- The suffix of the installed libraries: that of the first shared library, or of the first
static one if there is none that is shared. -/
def suffix (t : FileTree) (libPath : Path) : Except Misconfiguration String := do
  let shared ← firstFile? t libPath "so"
  let found ←
    match shared with
    | some path => .ok (some path)
    | none => firstFile? t libPath "a"
  match found with
  | some path => .ok (suffixIn (path.fileName?.getD ""))
  | none => .error (.libraryNotFound "Boost" library libPath)

end Boost
end HostLink
