import HostLink.Project
import HostLink.Proofs.Settings

namespace HostLink
namespace Project

open Settings (Counts fileBelow placed rebased userFile?)

/-!
# The settings of a project

The settings of a project come from two files, that of the user and that of the project root.
For every key the file of the project counts where it sets the key, and otherwise the file of the
user.  A file that cannot be used sets nothing, and the other one counts as it does anyhow.

Machine files are looked for in a directory that one of the two files sets.  It is taken from the
place to which that file belongs, the root of the project or the home directory, and not from
the working directory.  The directory is placed twice, when a file is loaded and when it is used;
as it is absolute after the first time, the second one only settles it.
-/

variable {ε σ : Type} {t : FileTree} {env : Environment}

/-- What the user sets, with the directory as it is written.  Without a home directory nothing is
set. -/
inductive UserSets (t : FileTree) (env : Environment) : Settings → Prop
  | home {home : String} {said : Settings} (set : env.nonEmpty? "HOME" = some home)
      (counts : Counts t (fileBelow ⟨home⟩) said) : UserSets t env said
  | homeless (unset : env.nonEmpty? "HOME" = none) : UserSets t env Settings.none

/-- The root that an argument stands for: what it leads to from the working directory, or the
working directory itself. -/
def rootOf (t : FileTree) : Option Path → Path
  | some root => Path.absolute (ToolPath.workPath t) root
  | none => ToolPath.workPath t

/-- A directory for machine files that is set, and the directory from which it is taken. -/
inductive MachinesFrom (env : Environment) (root : Path) (below above : Settings) :
    Path → Path → Prop
  | project {dir : Path} (set : above.machinesDir = some dir) :
      MachinesFrom env root below above root dir
  | user {home : String} {dir : Path} (unset : above.machinesDir = none)
      (set : below.machinesDir = some dir) (own : env.nonEmpty? "HOME" = some home) :
      MachinesFrom env root below above ⟨home⟩ dir

/-- The project has what its own file sets above what the user sets.  A directory that is set is the
one that its file means, step by step; its text may have other slashes. -/
structure Layered (t : FileTree) (env : Environment) (below above : Settings) (p : Project) :
    Prop where
  user : UserSets t env below
  project : Counts t (fileBelow p.root) above
  machine : p.settings.machine = above.machine.or below.machine
  defaultBuild : p.settings.defaultBuild = above.defaultBuild.or below.defaultBuild
  set : ∀ base dir, MachinesFrom env p.root below above base dir →
    (∃ directory, p.settings.machinesDir = some directory ∧
      directory.steps = (base.join dir).steps) ∧
    p.machinesDir = Path.absolute base dir
  unset : above.machinesDir = none → below.machinesDir = none →
    p.settings.machinesDir = none ∧
      p.machinesDir = (p.root.child ".hostconf").child "machines"

/-! ## Where a project starts -/

theorem isAbsolute_workPath (t : FileTree) : (ToolPath.workPath t).isAbsolute = true :=
  Path.isAbsolute_ofSteps_root _

theorem isAbsolute_rootOf (t : FileTree) (arg : Option Path) :
    (rootOf t arg).isAbsolute = true := by
  cases arg with
  | none => exact isAbsolute_workPath t
  | some root => exact Path.isAbsolute_absolute (isAbsolute_workPath t) root

theorem ofRoot?_eq (t : FileTree) (env : Environment) (arg : Option Path) :
    (ofRoot? t env arg : Action ε σ Project) = atRoot t env (rootOf t arg) := by
  cases arg <;> rfl

/-- The directory for machine files is absolute, whatever the settings say. -/
theorem isAbsolute_machinesDir {p : Project} (rooted : p.root.isAbsolute = true) :
    p.machinesDir.isAbsolute = true := by
  unfold machinesDir
  cases p.settings.machinesDir with
  | some directory => exact Path.isAbsolute_absolute rooted directory
  | none =>
      exact Path.isAbsolute_child_of_isAbsolute (Path.isAbsolute_child_of_isAbsolute rooted _) _

/-! ## Loading both files -/

/-- The settings of the user, if there can be any. -/
def userLayer (t : FileTree) (env : Environment) : Action ε σ Settings :=
  (userFile? env).elim (Action.pure Settings.none) (Settings.loadIfUsable t)

theorem loadLayers_eq (t : FileTree) (env : Environment) (root : Path) :
    (Settings.loadLayers t (userFile? env) (fileBelow root) : Action ε σ Settings) =
      userLayer t env >>= fun below => Settings.loadIfUsable t (fileBelow root) >>= fun above =>
        pure (below.overlay above) := by
  unfold Settings.loadLayers userLayer
  cases userFile? env <;> rfl

/-- The settings of the user as they are meant. -/
def userPlaced (env : Environment) (said : Settings) : Settings :=
  (userFile? env).elim said (fun file => placed file said)

theorem exists_userLayer (t : FileTree) (env : Environment) :
    ∃ below, UserSets t env below ∧
      ∀ st : σ, (userLayer t env : Action ε σ Settings).Succeeds st (userPlaced env below) st := by
  unfold userLayer userPlaced userFile?
  cases own : env.nonEmpty? "HOME" with
  | some home =>
      simp only [Option.map_some, Option.elim_some]
      rcases Settings.exists_loadIfUsable t (fileBelow ⟨home⟩) with ⟨below, counts, loads⟩
      exact ⟨below, .home own counts, loads⟩
  | none =>
      exact ⟨Settings.none, .homeless own, fun st => Action.succeeds_pure_iff'.mpr ⟨rfl, rfl⟩⟩

theorem exists_atRoot (t : FileTree) (env : Environment) (root : Path) :
    ∃ below above, UserSets t env below ∧ Counts t (fileBelow root) above ∧
      ∀ st : σ, (atRoot t env root : Action ε σ Project).Succeeds st
        ⟨root, (userPlaced env below).overlay (placed (fileBelow root) above)⟩ st := by
  rcases exists_userLayer t env with ⟨below, sets, first⟩
  rcases Settings.exists_loadIfUsable t (fileBelow root) with ⟨above, counts, second⟩
  refine ⟨below, above, sets, counts, fun st => ?_⟩
  unfold atRoot
  rw [loadLayers_eq]
  refine Action.succeeds_bind_iff.mpr ⟨_, st, ?_, Action.succeeds_pure_iff.mpr ⟨rfl, rfl⟩⟩
  refine Action.succeeds_bind_iff.mpr ⟨_, st, first st, ?_⟩
  exact Action.succeeds_bind_iff.mpr ⟨_, st, second st, Action.succeeds_pure_iff.mpr ⟨rfl, rfl⟩⟩

/-- A directory that was placed when its file was loaded stays in place when it is used. -/
theorem machinesDir_of_rebased {p : Project} {base dir : Path} (rooted : base.isAbsolute = true)
    (set : p.settings.machinesDir = some (rebased (fileBelow base) dir)) :
    (∃ directory, p.settings.machinesDir = some directory ∧
      directory.steps = (base.join dir).steps) ∧
    p.machinesDir = Path.absolute base dir := by
  have steps := Settings.steps_rebased rooted dir
  refine ⟨⟨_, set, steps⟩, ?_⟩
  unfold machinesDir
  rw [set]
  exact Path.absolute_eq_of_steps p.root rooted steps

theorem layered_overlay {below above : Settings} {root : Path} (rooted : root.isAbsolute = true)
    (homed : ∀ home, env.nonEmpty? "HOME" = some home → (⟨home⟩ : Path).isAbsolute = true)
    (user : UserSets t env below) (project : Counts t (fileBelow root) above) :
    Layered t env below above
      ⟨root, (userPlaced env below).overlay (placed (fileBelow root) above)⟩ where
  user := user
  project := project
  machine := by
    unfold userPlaced
    cases userFile? env <;> rfl
  defaultBuild := by
    unfold userPlaced
    cases userFile? env <;> rfl
  set := by
    intro base dir taken
    cases taken with
    | project set =>
        refine machinesDir_of_rebased rooted ?_
        simp only [Settings.overlay, placed, set, Option.map_some, Option.some_or]
    | user unset set own =>
        refine machinesDir_of_rebased (homed _ own) ?_
        simp only [Settings.overlay, userPlaced, userFile?, own, placed, unset, set,
          Option.map_some, Option.map_none, Option.none_or, Option.elim_some]
  unset := by
    intro vacant vacant'
    have none : ((userPlaced env below).overlay
        (placed (fileBelow root) above)).machinesDir = none := by
      unfold userPlaced
      cases userFile? env <;> simp [Settings.overlay, placed, vacant, vacant']
    refine ⟨none, ?_⟩
    unfold machinesDir
    rw [none]
    rfl

/-- From the same root the same settings are loaded, in whatever directory the run is. -/
theorem atRoot_congr {u : FileTree} {root : Path} (same : u.entries = t.entries)
    (rooted : root.isAbsolute = true)
    (homed : ∀ home, env.nonEmpty? "HOME" = some home → (⟨home⟩ : Path).isAbsolute = true) :
    (atRoot u env root : Action ε σ Project) = atRoot t env root := by
  have user : (userLayer u env : Action ε σ Settings) = userLayer t env := by
    unfold userLayer userFile?
    cases own : env.nonEmpty? "HOME" with
    | none => rfl
    | some home =>
        simp only [Option.map_some, Option.elim_some]
        exact Settings.loadIfUsable_congr same (Settings.isAbsolute_fileBelow (homed home own))
  have project : (Settings.loadIfUsable u (fileBelow root) : Action ε σ Settings) =
      Settings.loadIfUsable t (fileBelow root) :=
    Settings.loadIfUsable_congr same (Settings.isAbsolute_fileBelow rooted)
  unfold atRoot
  rw [loadLayers_eq, loadLayers_eq, user, project]

/-- A project always has settings, those of its own file above those of the user.  Its directory
for machine files is absolute, and what is loaded depends on the root and on the files, and not
on the working directory. -/
theorem ofRoot?_layers (t : FileTree) (env : Environment)
    (homed : ∀ home, env.nonEmpty? "HOME" = some home → (⟨home⟩ : Path).isAbsolute = true)
    (arg : Option Path) :
    ∃ p below above,
      (∀ st : σ, (ofRoot? t env arg : Action ε σ Project).Succeeds st p st) ∧
      p.root = rootOf t arg ∧ p.root.isAbsolute = true ∧
      Layered t env below above p ∧ p.machinesDir.isAbsolute = true ∧
      ∀ u other, u.entries = t.entries → rootOf u other = rootOf t arg →
        (ofRoot? u env other : Action ε σ Project) = ofRoot? t env arg := by
  have rooted := isAbsolute_rootOf t arg
  rcases exists_atRoot (ε := ε) (σ := σ) t env (rootOf t arg) with
    ⟨below, above, user, project, loads⟩
  let p : Project :=
    ⟨rootOf t arg, (userPlaced env below).overlay (placed (fileBelow (rootOf t arg)) above)⟩
  have layered : Layered t env below above p := layered_overlay rooted homed user project
  have directed : p.machinesDir.isAbsolute = true := isAbsolute_machinesDir (p := p) rooted
  refine ⟨p, below, above, ?_, rfl, rooted, layered, directed, ?_⟩
  · rw [ofRoot?_eq]
    exact loads
  · intro u other same root
    rw [ofRoot?_eq, ofRoot?_eq, root]
    exact atRoot_congr same rooted homed

/-! The files of a user and of a project, and a run that is in neither of the two places. -/

def labTree : FileTree :=
  let userFile := Text.asciiBytes "machine = \"ubuntu\"\nmachines_dir = \"machines\"\n"
  let projectFile := Text.asciiBytes "machine = \"lab\"\n"
  let home := FileTree.empty.putFile? ["home", "u", ".hostconf", "config.toml"] userFile false
  let both := home.bind
    (fun t => t.putFile? ["srv", "p", ".hostconf", "config.toml"] projectFile false)
  { both.getD FileTree.empty with workDir := ["work"] }

def labHome : Environment :=
  OrderedMap.ofList [("HOME", "/home/u")]

/-- The machine is that of the project.  The directory is that of the user, and it is taken from
the home directory.  From another place the same is loaded for the same root. -/
theorem ofRoot?_layers_lab :
    ∃ p, (ofRoot? labTree labHome (some ⟨"../srv/p"⟩) : Action Failure Unit Project).Succeeds
        () p () ∧
      p.root = ⟨"/srv/p"⟩ ∧ p.settings.machine = some "lab" ∧
      p.machinesDir = ⟨"/home/u/machines"⟩ ∧
      (ofRoot? { labTree with workDir := ["srv", "p"] } labHome none :
        Action Failure Unit Project) = ofRoot? labTree labHome (some ⟨"../srv/p"⟩) := by
  have home : labHome.nonEmpty? "HOME" = some "/home/u" := by decide
  have homed : ∀ home, labHome.nonEmpty? "HOME" = some home →
      (⟨home⟩ : Path).isAbsolute = true := by
    intro other own
    cases home.symm.trans own
    rfl
  have project : Counts labTree (fileBelow ⟨"/srv/p"⟩)
      { Settings.none with machine := some "lab" } :=
    .used (Settings.holds_iff.mpr ⟨"machine = \"lab\"\n", rfl, by decide +kernel⟩)
  have user : Counts labTree (fileBelow ⟨"/home/u"⟩)
      { Settings.none with machine := some "ubuntu", machinesDir := some ⟨"machines"⟩ } :=
    .used (Settings.holds_iff.mpr
      ⟨"machine = \"ubuntu\"\nmachines_dir = \"machines\"\n", rfl, by decide +kernel⟩)
  rcases ofRoot?_layers (ε := Failure) (σ := Unit) labTree labHome homed (some ⟨"../srv/p"⟩) with
    ⟨p, below, above, loads, root, _, layered, _, elsewhere⟩
  have srv : p.root = ⟨"/srv/p"⟩ := root.trans (by decide)
  have own := layered.project
  rw [srv] at own
  cases own.unique project
  cases layered.user with
  | homeless unset => cases home.symm.trans unset
  | home set counts =>
      cases home.symm.trans set
      cases counts.unique user
      exact ⟨p, loads (), srv, layered.machine, (layered.set _ _ (.user rfl rfl home)).2,
        elsewhere _ _ rfl (by decide)⟩

end Project
end HostLink
