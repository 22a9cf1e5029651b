import HostLink.CommandLine
import HostLink.Report

namespace HostLink
namespace Program

/-!
A run of the program: from the words of a command line, the environment and the files that it
sees, to what it prints and how it ends.  A run that fails ends with status 1, and a command
line that makes no sense with status 2.
-/

/-- How a run ends. -/
structure Finish where
  status : UInt8
  output : String
  errors : String
  deriving DecidableEq

def name : String := "hostconf"

def version : String := "0.1.0"

/-- The variable that names a machine where no option does. -/
def machineVariable : String := "HOSTCONF_MACHINE"

/-- The help of an option. -/
def optionHelp (form : CommandLine.OptionForm) : String :=
  let letter := (form.letter.map (fun c => String.ofList ['-', c] ++ ", ")).getD "    "
  letter ++ "--" ++ form.long ++
    match form.use with
    | .setting => " <" ++ Text.replaceChar '-' '_' form.long ++ ">"
    | _ => ""

def commandHelp (form : CommandLine.CommandForm) : List String :=
  (form.name ++ ": " ++ form.summary) ::
    Report.indented (form.options.map optionHelp)

def help : String :=
  Report.ofLines
    (["Usage: " ++ name ++ " [OPTIONS] <COMMAND>"] ++
      Report.titled "Commands:" (CommandLine.commandForms.flatMap commandHelp) ++
      Report.titled "Options:"
        ((CommandLine.runForms ++ [CommandLine.versionForm]).map optionHelp))

def aboutText : CommandLine.About → String
  | .help => help
  | .version => name ++ " " ++ version ++ "\n"

/-- The project of a run.  What the options set counts before its settings. -/
def project {ε σ : Type} (t : FileTree) (env : Environment) (options : RunOptions) :
    Action ε σ Project := do
  let p ← Project.ofRoot? t env options.root
  let given : Settings :=
    { Settings.none with
      machine := options.machine.or (env.find? machineVariable)
      machinesDir := options.machinesDir }
  return { p with settings := p.settings.overlay given }

/-- Runs a command and gives what it prints. -/
def perform (p : Project) (env : Environment) : Command → Action Failure FileTree String
  | .configure request asDocument findsTools => do
      let (b, c) ← p.configure env request
      let t ← Action.state
      let tools :=
        if findsTools then Report.foundToolLines t env c.tools else Report.toolLines c.tools
      if asDocument then return (Report.document c).render ++ "\n"
      else return Report.configuration b c tools
  | .flags request compile link => do
      let (_, c) ← p.configure env request
      return Report.flags c compile link
  | .linkPlan request => do
      let (b, c) ← p.configure env request
      return Report.linkPlan b c
  | .machines showsProfile => do
      let t ← Action.state
      let listing ← p.listing t env
      let table := Report.machines p listing
      if showsProfile then
        let m ← p.selectMachine t env none
        return table ++ Report.profile m
      else return table
  | .cvodeVersion includePath => do
      let t ← Action.state
      let found :=
        Action.mapError Failure.misconfigured
          (Sundials.installedVersion t (Path.absolute p.root includePath))
      let version ← found
      return toString version.toNat ++ "\n"

/-- Runs a command in the project that the options mean. -/
def runCommand (env : Environment) (call : Invocation) : Action Failure FileTree String := do
  let t ← Action.state
  let p ← project t env call.options
  perform p env call.command

/-- Whether a note is shown. -/
def isShown (verbose : Bool) (n : Note) : Bool :=
  match n.severity with
  | .debug => verbose
  | .info => true
  | .warning => true

def severityWord : Severity → String
  | .debug => "DEBUG"
  | .info => " INFO"
  | .warning => " WARN"

def noteLine (n : Note) : String :=
  severityWord n.severity ++ " " ++ n.text ++ "\n"

/-- The report of a failure. -/
def failureText (options : RunOptions) : Failure → String
  | .misconfigured cause =>
      let report := cause.diagnostic
      let report := if options.verbose then report else report.suggest Diagnostic.askForTrace
      report.render (!options.noColour)
  | .malformedFile path =>
      "error: " ++ (Failure.malformedFile path).message ++ ": TOML parse error\n"
  | cause => "error: " ++ cause.message ++ "\n"

/-- How the run of a command ends. -/
def finish (options : RunOptions) (outcome : Outcome Failure FileTree String) : Finish :=
  let notes :=
    String.join ((outcome.notes.filter (isShown options.verbose)).map noteLine)
  match outcome.result with
  | .ok text => ⟨0, text, notes⟩
  | .error cause => ⟨1, "", notes ++ failureText options cause⟩

/-- Runs the program. -/
def run (t : FileTree) (env : Environment) (words : List String) : Finish :=
  match CommandLine.demand words with
  | .error misuse => ⟨2, "", "error: " ++ misuse.message ++ "\n"⟩
  | .ok (.about subject) => ⟨0, aboutText subject, ""⟩
  | .ok (.run call) => finish call.options (runCommand env call t)

end Program
end HostLink
