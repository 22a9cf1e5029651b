import HostLink.Build
import HostLink.Text.Pieces

namespace HostLink
namespace Build

/-!
Builds written as one word, such as `GccOpt` or `IntelProduction_hostconfig,petsc=3.0`.  The
word starts with the compiler, which may be left out, and goes on with modifiers.  After it
come sections, each behind an underscore.  A section that starts with `hostconfig` lists the
versions asked for, between commas; any other section says nothing about the host.
-/

open Text (pieces cut? replaceChar)

/-- What a build word can ask for. -/
inductive Modifier where
  | production
  | profiling
  | optimised
  | dealii
  | debug
  deriving DecidableEq

namespace Modifier

def all : List Modifier :=
  [.production, .profiling, .optimised, .dealii, .debug]

def word : Modifier → String
  | .production => "Production"
  | .profiling => "Profile"
  | .optimised => "Opt"
  | .dealii => "Dealii"
  | .debug => "Debug"

/-- Adds what a modifier asks for; a production build is an optimised one. -/
def apply (b : Build) : Modifier → Build
  | .production => { b with production := true, optimised := true }
  | .profiling => { b with profiling := true }
  | .optimised => { b with optimised := true }
  | .dealii => { b with usingDealii := true }
  | .debug => { b with debug := true }

/-- The modifier at the start of a text, and what follows it. -/
def leading? (text : List Char) : Option (Modifier × List Char) :=
  all.findSome? (fun m => (Text.afterStart? m.word.toList text).map (fun rest => (m, rest)))

theorem eq_of_leading? {text rest : List Char} {m : Modifier}
    (h : leading? text = some (m, rest)) : text = m.word.toList ++ rest := by
  obtain ⟨m', _, hm'⟩ := List.exists_of_findSome?_eq_some h
  obtain ⟨rest', hrest, heq⟩ := Option.map_eq_some_iff.mp hm'
  cases heq
  exact Text.afterStart?_eq_some_iff.mp hrest

theorem word_length_pos (m : Modifier) : 0 < m.word.toList.length := by
  cases m <;> decide

end Modifier

/-- Why a text is no build word. -/
inductive Fault where
  | unrecognised (rest : String)
  | versionMissing (item : String)
  deriving DecidableEq

def Fault.reason : Fault → String
  | .unrecognised rest => "unrecognised component `" ++ rest ++ "`"
  | .versionMissing item => "expected `lib=version`, got `" ++ item ++ "`"

/-- A text that was taken for a build word, and why it is none. -/
structure InvalidWord where
  input : String
  fault : Fault
  deriving DecidableEq

def InvalidWord.message (e : InvalidWord) : String :=
  "invalid build type `" ++ e.input ++ "`: " ++ e.fault.reason

/-- The modifiers that make up a text. -/
def modifiers (text : List Char) : Except Fault (List Modifier) :=
  match text with
  | [] => .ok []
  | c :: rest =>
      match _hlead : Modifier.leading? (c :: rest) with
      | none => .error (.unrecognised (String.ofList (c :: rest)))
      | some (m, after) => (modifiers after).map (m :: ·)
termination_by text.length
decreasing_by
  have heq := congrArg List.length (Modifier.eq_of_leading? _hlead)
  have hpos := m.word_length_pos
  simp only [List.length_append] at heq
  simp only [List.length_cons] at heq ⊢
  omega

/-- The compiler at the start of a text, if one is named, and what follows it. -/
def leadingCompiler (text : List Char) : Option Compiler × List Char :=
  match Text.afterStart? "Gcc".toList text with
  | some rest => (some .gcc, rest)
  | none =>
      match Text.afterStart? "Intel".toList text with
      | some rest => (some .intel, rest)
      | none => (none, text)

/-- A library and the version asked for.  In a version `-` may be written for `.`. -/
def preference (item : String) : Except Fault (String × String) :=
  match cut? '=' item with
  | none => .error (.versionMissing item)
  | some (library, version) => .ok (library, replaceChar '-' '.' version)

/-- The versions that a section asks for. -/
def sectionPreferences (words : String) : Except Fault (List (String × String)) :=
  match pieces ',' words with
  | "hostconfig" :: items => (items.filter (· ≠ "")).mapM preference
  | _ => .ok []

/-- Reads a build word. -/
def read (text : String) : Except Fault Build :=
  match pieces '_' text with
  | [] => .ok plain
  | head :: sections => do
      let (compiler, rest) := leadingCompiler head.toList
      let found ← modifiers rest
      let asked ← sections.mapM sectionPreferences
      let b := found.foldl Modifier.apply { plain with compiler := compiler.getD .gcc }
      return { b with preferences := OrderedMap.ofList asked.flatten }

/-- The build that a text stands for. -/
def ofText (text : String) : Except InvalidWord Build :=
  match read text with
  | .ok b => .ok b
  | .error fault => .error ⟨text, fault⟩

/-- The compiler as it starts a build word. -/
def compilerWord : Compiler → String
  | .gcc => "Gcc"
  | .intel => "Intel"

/-- The one modifier that stands for the flavour. -/
def flavourWord (b : Build) : String :=
  if b.production then "Production"
  else if b.profiling then "Profile"
  else if b.optimised then "Opt"
  else ""

/-- The build as a word.  Of the flags that choose the flavour only the decisive one is
written. -/
def text (b : Build) : String :=
  compilerWord b.compiler ++ b.flavourWord ++ (if b.usingDealii then "Dealii" else "") ++
    if b.preferences.isEmpty then ""
    else
      "_hostconfig" ++
        String.join (b.preferences.entries.map (fun x => "," ++ x.1 ++ "=" ++ x.2))

end Build
end HostLink
