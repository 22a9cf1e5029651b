import HostLink.Text.Shown

namespace HostLink
namespace Text

/-!
Quoted text.  A quoted text shows where it begins and ends and what it holds: the quotation
mark, the backslash and the usual control characters have short escapes, and other characters
that would not be seen are given by their code points.
-/

def hexDigits (n : Nat) : List Char :=
  Nat.toDigits 16 n

/-- A character inside quotation marks. -/
def quotedChar (c : Char) : List Char :=
  if c = '\x00' then ['\\', '0']
  else if c = '\t' then ['\\', 't']
  else if c = '\r' then ['\\', 'r']
  else if c = '\n' then ['\\', 'n']
  else if c = '\\' ∨ c = '\"' then ['\\', c]
  else if isShown c then [c]
  else ['\\', 'u', '\x7b'] ++ hexDigits c.toNat ++ ['\x7d']

/-- A text in quotation marks. -/
def quoted (text : String) : String :=
  String.ofList (['\"'] ++ text.toList.flatMap quotedChar ++ ['\"'])

/-- Quoted texts in brackets. -/
def quotedList (texts : List String) : String :=
  "[" ++ ", ".intercalate (texts.map quoted) ++ "]"

end Text
end HostLink
