import HostLink.Path

namespace HostLink

/-!
Error reports for a terminal: a message, the place it is about, remarks, and a numbered list
of what to try.  A report has one line for its message, one for its place if it has one, one
for each remark and, after a blank line, a heading and one line for each suggestion.
-/

/-- An error report. -/
structure Diagnostic where
  message : String
  location : Option Path := none
  remarks : List String := []
  suggestions : List String := []
  deriving DecidableEq

namespace Diagnostic

def listMachines : String :=
  "Run `hostconf machines` to see which machine profile was selected"

def useBuildString : String :=
  "Use a build type such as `GccOpt` or `GccOpt_hostconfig,petsc=3.0`"

def askForTrace : String :=
  "Run with `--verbose` for the full resolution trace"

/-- The report with one more suggestion, after the others. -/
def suggest (d : Diagnostic) (suggestion : String) : Diagnostic :=
  { d with suggestions := d.suggestions ++ [suggestion] }

/-- A word in bold and in a colour, as terminals take it. -/
def highlighted (colour : Nat) (word : String) : String :=
  "\x1b[1;" ++ toString colour ++ "m" ++ word ++ "\x1b[0m"

def errorWord (colour : Bool) : String :=
  if colour then highlighted 31 "error" else "error"

def helpWord (colour : Bool) : String :=
  if colour then highlighted 32 "help" else "help"

/-- Numbered lines, counted from a first number. -/
def numbered (number : Nat) : List String → List String
  | [] => []
  | text :: rest => ("  " ++ toString number ++ ". " ++ text) :: numbered (number + 1) rest

/-- The lines of a report. -/
def lines (d : Diagnostic) (colour : Bool) : List String :=
  [errorWord colour ++ ": " ++ d.message] ++
    (d.location.toList.map (fun p => "  --> " ++ p.text)) ++
    (d.remarks.map ("  = " ++ ·)) ++
    (if d.suggestions.isEmpty then []
     else "" :: (helpWord colour ++ ": consider:") :: numbered 1 d.suggestions)

/-- The report as text. -/
def render (d : Diagnostic) (colour : Bool) : String :=
  String.join ((d.lines colour).map (· ++ "\n"))

end Diagnostic

end HostLink
