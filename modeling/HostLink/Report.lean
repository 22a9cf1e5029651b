import HostLink.Project
import HostLink.Report.Json

namespace HostLink
namespace Report

/-!
What the commands print.
-/

/-- Lines as a text, each with a line end. -/
def ofLines (lines : List String) : String :=
  String.join (lines.map (· ++ "\n"))

def indented (lines : List String) : List String :=
  lines.map ("  " ++ ·)

/-- A title with lines below it, behind an empty line. -/
def titled (title : String) (lines : List String) : List String :=
  "" :: title :: indented lines

/-- The tools with the commands that run them. -/
def toolLines (tools : Tools) : List String :=
  tools.entries.map (fun x => x.1 ++ " = " ++ x.2)

/-- The tools with their commands and the files that those run. -/
def foundToolLines (t : FileTree) (env : Environment) (tools : Tools) : List String :=
  tools.entries.map (fun x =>
    let found := ((ToolPath.find? t env x.2).map Path.text).getD "not found"
    x.1 ++ " = " ++ x.2 ++ "    # " ++ found)

/-- A configuration as text, with lines that describe its tools. -/
def configuration (b : Build) (c : Configuration) (tools : List String) : String :=
  let petsc := (c.petscRelease.map PetscRelease.name).getD "(not resolved)"
  ofLines
    (["Machine:  " ++ c.machine, "Build:    " ++ b.text, "PETSc:    " ++ petsc] ++
      titled "Include paths:" (c.line.includePaths.map Path.text) ++
      titled "Library paths:" (c.line.libPaths.map Path.text) ++
      titled "Libraries:" [Text.joined " " c.line.libraries] ++
      (if c.symbols.isEmpty then [] else titled "Defines:" c.symbols) ++
      (if c.compileFlags = "" ∧ c.linkFlags = "" then []
        else ["", "ccflags:  " ++ c.compileFlags, "ldflags:  " ++ c.linkFlags]) ++
      titled "Tools:" tools)

/-- A configuration as a document. -/
def document (c : Configuration) : Json :=
  .record
    [("machine", .text c.machine),
      ("build", .text c.build),
      ("petsc_version", (c.petscRelease.map (fun r => Json.text r.name)).getD .null),
      ("include_paths", Json.texts (c.line.includePaths.map Path.text)),
      ("lib_paths", Json.texts (c.line.libPaths.map Path.text)),
      ("libraries", Json.texts c.line.libraries),
      ("tools", .record (c.tools.entries.map (fun x => (x.1, Json.text x.2)))),
      ("defines", Json.texts c.symbols),
      ("ccflags", .text c.compileFlags),
      ("ldflags", .text c.linkFlags)]

/-- The arguments of the compiler and of the linker, a line for each.  Who wants neither one
gets both. -/
def flags (c : Configuration) (compile link : Bool) : String :=
  ofLines
    ((if compile || !link then [Text.joined " " c.compileArguments] else []) ++
      (if link || !compile then [Text.joined " " c.linkArguments] else []))

/-- The order in which a configuration is linked. -/
def linkPlan (b : Build) (c : Configuration) : String :=
  ofLines
    (["Link order for " ++ b.text ++ " on `" ++ c.machine ++ "`:", "", "Search paths:"] ++
      Diagnostic.numbered 1 (c.line.libPaths.map (fun p => "-L" ++ p.text)) ++
      ["", "Libraries:"] ++
      Diagnostic.numbered 1 (c.line.libraries.map ("-l" ++ ·)) ++
      (if c.linkFlags = "" then [] else ["", "Extra linker flags: " ++ c.linkFlags]))

/-- The machines of a project, below its host and the place of its machine files. -/
def machines (p : Project) (l : Project.Listing) : String :=
  ofLines ["Host: " ++ l.host.text, "Machine files: " ++ p.machinesDir.text, ""] ++ l.text

/-- The profile of a machine. -/
def profile (m : Machine) : String :=
  ofLines ["", "# Profile for `" ++ m.id ++ "`"] ++ m.profile.document .spread

end Report
end HostLink
