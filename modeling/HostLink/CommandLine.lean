import HostLink.CommandLine.Reading
import HostLink.Project

namespace HostLink

/-!
What the program can be asked to do.  The options that every command takes may stand before
the name of the command or behind it, and behind it they count more.
-/

/-- Settings for all commands. -/
structure RunOptions where
  verbose : Bool
  /-- Whether reports go without colours. -/
  noColour : Bool
  machine : Option String
  machinesDir : Option Path
  root : Option Path
  deriving DecidableEq

/-- A command with what it needs. -/
inductive Command where
  /-- Shows a configuration, as a document or as text with the files of its tools. -/
  | configure (request : Request) (asDocument findsTools : Bool)
  /-- Shows the arguments of the compiler or those of the linker, or both. -/
  | flags (request : Request) (compile link : Bool)
  /-- Shows what is linked in which order. -/
  | linkPlan (request : Request)
  /-- Shows the machines there are, and perhaps the profile of the one in use. -/
  | machines (showsProfile : Bool)
  /-- Shows the version of the CVODE whose headers are in a directory. -/
  | cvodeVersion (includePath : Path)

/-- A command with the settings for its run. -/
structure Invocation where
  options : RunOptions
  command : Command

namespace CommandLine

/-! The options there are. -/

def switchForm (long : String) : OptionForm := ⟨long, none, .switch⟩

def settingForm (long : String) : OptionForm := ⟨long, none, .setting⟩

def helpForm : OptionForm := ⟨"help", some 'h', .about .help⟩

def versionForm : OptionForm := ⟨"version", some 'V', .about .version⟩

/-- The options of every command. -/
def runForms : List OptionForm :=
  [⟨"verbose", some 'v', .switch⟩, switchForm "no-color", settingForm "machine",
    settingForm "machines-dir", settingForm "root", helpForm]

/-- The options that describe a build. -/
def requestForms : List OptionForm :=
  [⟨"build-type", some 'b', .setting⟩, settingForm "compiler", switchForm "opt",
    switchForm "profile", switchForm "production", switchForm "dealii",
    switchForm "dealii-debug", switchForm "debug", settingForm "prefer"]

/-- The options that may be given more than once. -/
def repeatable : List String := ["prefer"]

/-! What the options say. -/

/-- A value that has to be one of a kind. -/
def decoded {α : Type} (name : String) (decode : String → Except String α) (text : String) :
    Except Misuse α :=
  (decode text).mapError (Misuse.invalidValue name)

/-- A path, which must not be empty. -/
def pathOf (text : String) : Except String Path :=
  if text = "" then .error "a path is needed" else .ok ⟨text⟩

/-- Refuses an option that is given twice and may not be. -/
def requireOnce (items : List Item) : Except Misuse Unit :=
  match firstRepeated? ((items.filterMap Item.option?).filter (!repeatable.contains ·)) with
  | some name => .error (.repeatedOption name)
  | none => .ok ()

/-- Refuses operands behind the ones that a command takes. -/
def requireNoMore : List String → Except Misuse Unit
  | [] => .ok ()
  | text :: _ => .error (.unexpectedOperand text)

/-- The settings for all commands among the items. -/
def runOptionsOf (items : List Item) : Except Misuse RunOptions := do
  let path? := fun name => (value? items name).mapM (decoded name pathOf)
  return {
    verbose := hasSwitch items "verbose"
    noColour := hasSwitch items "no-color"
    machine := value? items "machine"
    machinesDir := ← path? "machines-dir"
    root := ← path? "root" }

/-- The request that the items describe. -/
def requestOf (items : List Item) : Except Misuse Request := do
  return {
    build := value? items "build-type"
    compiler := ← (value? items "compiler").mapM (decoded "compiler" Compiler.ofName)
    optimised := hasSwitch items "opt"
    profiling := hasSwitch items "profile"
    production := hasSwitch items "production"
    dealii := hasSwitch items "dealii"
    dealiiDebugging := hasSwitch items "dealii-debug"
    debug := hasSwitch items "debug"
    preferences := ← (values items "prefer").mapM (decoded "prefer" Request.preferenceOf)
    machine := none }

/-- A command as it is named: its options, and how it is made from what was given. -/
structure CommandForm where
  name : String
  summary : String
  options : List OptionForm
  make : List Item → Except Misuse Command

/-- A command that takes options only. -/
def withoutOperands (make : List Item → Except Misuse Command) (items : List Item) :
    Except Misuse Command := do
  requireNoMore (operands items)
  make items

def configureForm : CommandForm where
  name := "configure"
  summary := "Resolve and show the full host configuration"
  options := requestForms ++ [switchForm "json", switchForm "tools"]
  make := withoutOperands (fun items => do
    return .configure (← requestOf items) (hasSwitch items "json") (hasSwitch items "tools"))

def flagsForm : CommandForm where
  name := "flags"
  summary := "Show compile/link flags"
  options := requestForms ++ [switchForm "compile", switchForm "link"]
  make := withoutOperands (fun items => do
    return .flags (← requestOf items) (hasSwitch items "compile") (hasSwitch items "link"))

def linkPlanForm : CommandForm where
  name := "linkplan"
  summary := "Show the link order and where each entry came from"
  options := requestForms
  make := withoutOperands (fun items => do return .linkPlan (← requestOf items))

def machinesForm : CommandForm where
  name := "machines"
  summary := "List available machine configurations"
  options := [switchForm "show"]
  make := withoutOperands (fun items => .ok (.machines (hasSwitch items "show")))

/-- The operand of the command for the version of CVODE. -/
def includePathName : String := "INCLUDE_PATH"

def cvodeVersionForm : CommandForm where
  name := "cvode-version"
  summary := "Print the CVODE version found under an include directory"
  options := []
  make := fun items =>
    match operands items with
    | [] => .error (.missingOperand includePathName)
    | text :: more => do
        requireNoMore more
        return .cvodeVersion (← decoded includePathName pathOf text)

/-- The commands there are. -/
def commandForms : List CommandForm :=
  [configureForm, flagsForm, linkPlanForm, machinesForm, cvodeVersionForm]

def findCommand? (name : String) : Option CommandForm :=
  commandForms.find? (fun form => form.name == name)

/-- What a command line asks for. -/
inductive Demand where
  | about (subject : About)
  | run (call : Invocation)

/-- Settings behind the name of a command together with those before it. -/
def combined (before behind : RunOptions) : RunOptions where
  verbose := behind.verbose || before.verbose
  noColour := behind.noColour || before.noColour
  machine := behind.machine.or before.machine
  machinesDir := behind.machinesDir.or before.machinesDir
  root := behind.root.or before.root

/-- What the words behind the name of a command ask for. -/
def commandDemand (before : RunOptions) (form : CommandForm) (words : List String) :
    Except Misuse Demand := do
  let reading := Reading.ofWords (form.options ++ runForms) (fun _ => false) words
  requireOnce reading.items
  let behind ← runOptionsOf reading.items
  match reading.ending with
  | .fails cause => .error cause
  | .asks subject => return .about subject
  | _ => return .run ⟨combined before behind, ← form.make reading.items⟩

/-- What the words of a command line ask for. -/
def demand (words : List String) : Except Misuse Demand := do
  let reading :=
    Reading.ofWords (runForms ++ [versionForm]) (fun word => (findCommand? word).isSome) words
  requireOnce reading.items
  requireNoMore (operands reading.items)
  let before ← runOptionsOf reading.items
  match reading.ending with
  | .fails cause => .error cause
  | .asks subject => return .about subject
  | .complete => .error .missingCommand
  | .command name rest =>
      match findCommand? name with
      | some form => commandDemand before form rest
      | none => .error .missingCommand

end CommandLine
end HostLink
