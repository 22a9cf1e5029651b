import HostLink.Text.Pieces

namespace HostLink
namespace CommandLine

/-!
The words of a command line.  A word that begins with `-` gives options, a word that names a
command hands all that follows to that command, and any other word is an operand.  Behind
`--` every word is an operand.

Words are read from the left, and reading ends early at a word that asks for a text about the
program or that makes no sense.  What stands to the right of such a word does not count.
-/

/-- A text about the program that can be asked for. -/
inductive About where
  | help
  | version
  deriving DecidableEq

/-- What an option is for. -/
inductive OptionUse where
  /-- Being there is all it says. -/
  | switch
  /-- It gives a value, which stands in the same word or in the next. -/
  | setting
  /-- It asks for a text. -/
  | about (subject : About)

/-- An option, with its long name and perhaps a letter. -/
structure OptionForm where
  long : String
  letter : Option Char
  use : OptionUse

/-- What a command line gives. -/
inductive Item where
  | switch (name : String)
  | setting (name value : String)
  | operand (text : String)
  deriving DecidableEq

/-- Why a command line makes no sense. -/
inductive Misuse where
  | unknownOption (word : String)
  | unexpectedValue (name : String)
  | missingValue (name : String)
  | repeatedOption (name : String)
  | invalidValue (name reason : String)
  | unexpectedOperand (text : String)
  | missingOperand (name : String)
  | missingCommand
  deriving DecidableEq

namespace Misuse

def message : Misuse → String
  | .unknownOption word => "unexpected argument `" ++ word ++ "`"
  | .unexpectedValue name => "option `--" ++ name ++ "` takes no value"
  | .missingValue name => "option `--" ++ name ++ "` needs a value"
  | .repeatedOption name => "option `--" ++ name ++ "` was given more than once"
  | .invalidValue name reason => "invalid value for `--" ++ name ++ "`: " ++ reason
  | .unexpectedOperand text => "unexpected argument `" ++ text ++ "`"
  | .missingOperand name => "missing argument `" ++ name ++ "`"
  | .missingCommand => "a command is needed"

end Misuse

/-- What a single word gives. -/
inductive WordReading where
  | gives (items : List Item)
  /-- The value of the last option is the next word. -/
  | awaits (items : List Item) (name : String)
  | asks (items : List Item) (subject : About)
  | fails (cause : Misuse)

namespace WordReading

/-- The reading with an item before all others. -/
def preceded (item : Item) : WordReading → WordReading
  | .gives items => .gives (item :: items)
  | .awaits items name => .awaits (item :: items) name
  | .asks items subject => .asks (item :: items) subject
  | .fails cause => .fails cause

/-- Options by their letters, which may stand together in one word.  What follows the letter
of an option with a value is that value, with or without `=` between them. -/
def ofLetters (forms : List OptionForm) : List Char → WordReading
  | [] => .gives []
  | c :: rest =>
      match forms.find? (fun form => form.letter == some c) with
      | none => .fails (.unknownOption (String.ofList ['-', c]))
      | some form =>
          match form.use, rest with
          | .switch, rest => (ofLetters forms rest).preceded (.switch form.long)
          | .about subject, _ => .asks [] subject
          | .setting, [] => .awaits [] form.long
          | .setting, '=' :: value => .gives [.setting form.long (String.ofList value)]
          | .setting, value => .gives [.setting form.long (String.ofList value)]

/-- An option by its long name, with the value that stands behind `=`, if one does. -/
def ofLong (forms : List OptionForm) (name : String) (value : Option String) : WordReading :=
  match forms.find? (fun form => form.long == name) with
  | none => .fails (.unknownOption ("--" ++ name))
  | some form =>
      match form.use, value with
      | .switch, none => .gives [.switch form.long]
      | .setting, some text => .gives [.setting form.long text]
      | .setting, none => .awaits [] form.long
      | .about subject, none => .asks [] subject
      | _, some _ => .fails (.unexpectedValue form.long)

/-- The reading of a word that is not `--`. -/
def ofWord (forms : List OptionForm) (word : String) : WordReading :=
  match word.toList with
  | '-' :: '-' :: body =>
      match Text.cutAt '=' body with
      | some (name, value) =>
          ofLong forms (String.ofList name) (some (String.ofList value))
      | none => ofLong forms (String.ofList body) none
  | '-' :: c :: letters => ofLetters forms (c :: letters)
  | _ => .gives [.operand word]

end WordReading

/-- The word behind which every word is an operand. -/
def operandMark : String := "--"

/-- Whether a word gives options, so that it is not the value of the option before it.  A
single `-` is an ordinary word. -/
def looksLikeOption (word : String) : Bool :=
  Text.startsWith "-" word && word != "-"

/-- How the reading of words ends. -/
inductive Ending where
  | complete
  /-- At the name of a command, with the words behind it. -/
  | command (name : String) (rest : List String)
  | asks (subject : About)
  | fails (cause : Misuse)

/-- What was read: items in their order, and how it ended. -/
structure Reading where
  items : List Item
  ending : Ending

namespace Reading

/-- The reading with items before all others. -/
def precededBy (items : List Item) (r : Reading) : Reading :=
  { r with items := items ++ r.items }

/-- Reads words with the options that are known, up to the name of a command. -/
def ofWords (forms : List OptionForm) (isCommand : String → Bool) : List String → Reading
  | [] => ⟨[], .complete⟩
  | word :: rest =>
      if isCommand word then ⟨[], .command word rest⟩
      else if word = operandMark then ⟨rest.map .operand, .complete⟩
      else
        match WordReading.ofWord forms word, rest with
        | .gives items, rest => (ofWords forms isCommand rest).precededBy items
        | .asks items subject, _ => ⟨items, .asks subject⟩
        | .fails cause, _ => ⟨[], .fails cause⟩
        | .awaits _ name, [] => ⟨[], .fails (.missingValue name)⟩
        | .awaits items name, value :: rest =>
            if looksLikeOption value then ⟨[], .fails (.missingValue name)⟩
            else
              (ofWords forms isCommand rest).precededBy (items ++ [.setting name value])

end Reading

/-! What the items say. -/

namespace Item

/-- The name of the option that an item gives. -/
def option? : Item → Option String
  | .switch name => some name
  | .setting name _ => some name
  | .operand _ => none

end Item

/-- Whether a switch is among the items. -/
def hasSwitch (items : List Item) (name : String) : Bool :=
  items.contains (.switch name)

/-- The values that an option was given, in their order. -/
def values (items : List Item) (name : String) : List String :=
  items.filterMap (fun item =>
    match item with
    | .setting other value => if other = name then some value else none
    | _ => none)

/-- The value of an option that is given at most once. -/
def value? (items : List Item) (name : String) : Option String :=
  (values items name).head?

/-- The operands in their order. -/
def operands (items : List Item) : List String :=
  items.filterMap (fun item =>
    match item with
    | .operand text => some text
    | _ => none)

/-- The first name that comes again later in a list. -/
def firstRepeated? : List String → Option String
  | [] => none
  | name :: rest => if rest.contains name then some name else firstRepeated? rest

theorem firstRepeated?_eq_none_iff {names : List String} :
    firstRepeated? names = none ↔ names.Nodup := by
  induction names with
  | nil => simp [firstRepeated?]
  | cons name rest ih =>
      simp only [firstRepeated?, List.nodup_cons]
      split
      · rename_i h
        simp_all
      · rename_i h
        simp_all

end CommandLine
end HostLink
