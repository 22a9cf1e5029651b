import HostLink.Action
import HostLink.Misconfiguration
import HostLink.Text.Digit
import HostLink.Text.Utf8

namespace HostLink
namespace Sundials

/-!
The version of SUNDIALS, as its configuration header states it.  The header is read line by
line, as bytes, since its comments may be in any encoding.  The first line that defines the
package version decides; its three numbers are packed into one, two decimal digits for each
of the last two as long as they have no more.
-/

/-- The header that states the version, below a directory of headers. -/
def headerPath (includePath : Path) : Path :=
  (includePath.child "sundials").child "sundials_config.h"

/-- How the line that states the version begins. -/
def definition : List UInt8 :=
  Text.asciiBytes "#define SUNDIALS_PACKAGE_VERSION \""

/-- The digits at the front of a text, at least one of them. -/
def digits? (text : List Char) : Option (List Char × List Char) :=
  match text.span Text.isDecimalDigit with
  | ([], _) => none
  | (found, rest) => some (found, rest)

/-- A given character at the front of a text. -/
def sign? (c : Char) : List Char → Option (List Char)
  | [] => none
  | d :: rest => if d = c then some rest else none

/-- The three parts of a version between the opening quote and the closing one. -/
def parts? (text : List Char) : Option (List Char × List Char × List Char) := do
  let (major, rest) ← digits? text
  let rest ← sign? '.' rest
  let (minor, rest) ← digits? rest
  let rest ← sign? '.' rest
  let (patch, rest) ← digits? rest
  let _ ← sign? '\"' rest
  return (major, minor, patch)

/-- What follows given bytes, if the bytes begin so. -/
def bytesAfter? : List UInt8 → List UInt8 → Option (List UInt8)
  | [], bytes => some bytes
  | _ :: _, [] => none
  | s :: start, b :: bytes => if s = b then bytesAfter? start bytes else none

/-- The three parts of the version that a line states, if it states one. -/
def statedParts? (line : List UInt8) : Option (List Char × List Char × List Char) :=
  (bytesAfter? definition line).bind (fun rest => parts? (Text.decodedStart rest))

/-- The bytes between newlines. -/
def byteLines : List UInt8 → List (List UInt8)
  | [] => [[]]
  | b :: rest =>
      if b = 10 then [] :: byteLines rest
      else
        match byteLines rest with
        | [] => [[b]]
        | line :: lines => (b :: line) :: lines

/-- A line without the carriage return at its end, if it has one. -/
def withoutReturn (line : List UInt8) : List UInt8 :=
  if line.getLast? = some 13 then line.dropLast else line

/-- The number in 32 bits, if they hold it. -/
def held? (n : Nat) : Option UInt32 :=
  if n < UInt32.size then some (UInt32.ofNat n) else none

/-- A part as a number; it has to be one that fits. -/
def component (digits : List Char) : Except String UInt32 :=
  match (Text.decimal? digits).bind held? with
  | some n => .ok n
  | none => .error ("version component `" ++ String.ofList digits ++ "` out of range")

/-- The three parts packed into one number, unless it or a number on the way to it does not
fit. -/
def packed? (major minor patch : UInt32) : Option UInt32 := do
  let upper ← held? (major.toNat * 10000)
  let middle ← held? (minor.toNat * 100)
  let both ← held? (upper.toNat + middle.toNat)
  held? (both.toNat + patch.toNat)

/-- The three parts packed into one number; the whole has to fit as well. -/
def pack (major minor patch : UInt32) : Except String UInt32 :=
  match packed? major minor patch with
  | some version => .ok version
  | none =>
      .error
        ("version " ++ toString major.toNat ++ "." ++ toString minor.toNat ++ "." ++
          toString patch.toNat ++ " out of range")

/-- The packed version of three parts. -/
def packedVersion (parts : List Char × List Char × List Char) : Except String UInt32 := do
  let major ← component parts.1
  let minor ← component parts.2.1
  let patch ← component parts.2.2
  pack major minor patch

/-- The packed version that a header states. -/
def statedVersion (content : List UInt8) : Except String UInt32 :=
  match ((byteLines content).map withoutReturn).findSome? statedParts? with
  | some parts => packedVersion parts
  | none => .error "unable to find version string within sundials_config.h"

/-- The packed version that a header file states. -/
def versionInHeader (t : FileTree) (path : Path) : Except Misconfiguration UInt32 :=
  match t.read path with
  | .error .notFound =>
      .error
        (.versionHeader path "unable to find sundials_config.h to read CVODE version")
  | .error cause => .error (.unreadable path cause.message)
  | .ok content =>
      match statedVersion content with
      | .ok version => .ok version
      | .error reason => .error (.versionHeader path reason)

/-- The packed version of the SUNDIALS whose headers are below a directory. -/
def installedVersion {σ : Type} (t : FileTree) (includePath : Path) :
    Action Misconfiguration σ UInt32 := do
  let header := headerPath includePath
  let version ← Action.ofExcept (versionInHeader t header)
  Action.note .debug
    ("CVODE version " ++ toString version.toNat ++ " from " ++ header.text)
  return version

end Sundials
end HostLink
