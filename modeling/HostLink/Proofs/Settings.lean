import HostLink.Proofs.Action
import HostLink.Proofs.FileTree
import HostLink.Proofs.Path.Parent
import HostLink.Settings

namespace HostLink
namespace Settings

/-!
# Settings files

A settings file counts as a whole or not at all.  It counts if its text is a document in which
each of the three keys is absent or has the right kind; a file that cannot be read, that is no
document, or in which one key has another kind, sets nothing.  What counts of one file depends on
that file alone.

A directory in a settings file is taken from the directory above that of the file.  That one is
found by dropping the last two moves of the path of the file, which are the two names that were
joined to it.
-/

/-! ## What a document says -/

/-- What a table says under a key for a text. -/
inductive Gives (ms : Toml.Members) (key : String) : Option String → Prop
  | absent (missing : Toml.member? ms key = .none) : Gives ms key .none
  | text {text : String} (set : Toml.member? ms key = some (.text text)) :
      Gives ms key (some text)

/-- The build that a document names in a table of its own, which may also be written as the list
of its values. -/
inductive GivesBuild (ms : Toml.Members) : Option String → Prop
  | absent (missing : Toml.member? ms "build" = .none) : GivesBuild ms .none
  | table {v : Toml.Value} {members : Toml.Members} {word : Option String}
      (set : Toml.member? ms "build" = some v)
      (record : Toml.asRecord? ["default"] v = some members)
      (gives : Gives members "default" word) : GivesBuild ms word

/-- What a document says, with the directory as it is written. -/
structure Declares (ms : Toml.Members) (said : Settings) : Prop where
  machine : Gives ms "machine" said.machine
  machinesDir : Gives ms "machines_dir" (said.machinesDir.map Path.text)
  defaultBuild : GivesBuild ms said.defaultBuild

theorem optional?_asText?_eq_some_iff {ms : Toml.Members} {key : String} {text : Option String} :
    Toml.optional? ms key Toml.asText? = some text ↔ Gives ms key text := by
  unfold Toml.optional?
  constructor
  · intro found
    cases set : Toml.member? ms key with
    | none =>
        rw [set] at found
        cases found
        exact .absent set
    | some v =>
        cases v with
        | text own =>
            rw [set] at found
            cases found
            exact .text set
        | _ =>
            rw [set] at found
            cases found
  · intro gives
    cases gives with
    | absent missing => rw [missing]
    | text set =>
        rw [set]
        rfl

theorem optional?_asPath?_eq_some_iff {ms : Toml.Members} {key : String} {path : Option Path} :
    Toml.optional? ms key Toml.asPath? = some path ↔ Gives ms key (path.map Path.text) := by
  have taken : Toml.optional? ms key Toml.asPath? =
      (Toml.optional? ms key Toml.asText?).map (Option.map Path.mk) := by
    unfold Toml.optional? Toml.asPath?
    cases Toml.member? ms key with
    | none => rfl
    | some v => cases h : Toml.asText? v <;> simp [h]
  rw [taken, ← optional?_asText?_eq_some_iff, Option.map_eq_some_iff]
  constructor
  · rintro ⟨text, found, rfl⟩
    rw [found, Option.map_map]
    exact congrArg some (Option.map_id_apply).symm
  · intro found
    refine ⟨_, found, ?_⟩
    rw [Option.map_map]
    exact Option.map_id_apply

/-- The build in the value of its key. -/
def buildWord? (v : Toml.Value) : Option (Option String) :=
  (Toml.asRecord? ["default"] v).bind (fun ms => Toml.optional? ms "default" Toml.asText?)

theorem withDefault?_buildWord?_eq_some_iff {ms : Toml.Members} {word : Option String} :
    Toml.withDefault? ms "build" buildWord? .none = some word ↔ GivesBuild ms word := by
  unfold Toml.withDefault? Toml.optional?
  constructor
  · intro found
    cases set : Toml.member? ms "build" with
    | none =>
        rw [set] at found
        cases found
        exact .absent set
    | some v =>
        simp only [set, Option.map_map, Option.map_eq_some_iff] at found
        rcases found with ⟨own, found, rfl⟩
        rcases Option.bind_eq_some_iff.mp found with ⟨members, record, gives⟩
        exact .table set record (optional?_asText?_eq_some_iff.mp gives)
  · intro gives
    cases gives with
    | absent missing =>
        rw [missing]
        rfl
    | table set record gives =>
        have found : buildWord? _ = some word :=
          Option.bind_eq_some_iff.mpr ⟨_, record, optional?_asText?_eq_some_iff.mpr gives⟩
        rw [set]
        simp only [found, Option.map_some, Option.getD_some]

/-- A document is taken exactly as it says, and not at all if one key has the wrong kind. -/
theorem ofMembers?_eq_some_iff {ms : Toml.Members} {said : Settings} :
    ofMembers? ms = some said ↔ Declares ms said := by
  have opened : ofMembers? ms = some said ↔ ∃ machine path word,
      Toml.optional? ms "machine" Toml.asText? = some machine ∧
        Toml.optional? ms "machines_dir" Toml.asPath? = some path ∧
          Toml.withDefault? ms "build" buildWord? .none = some word ∧
            said = ⟨machine, path, word⟩ := by
    unfold ofMembers?
    simp only [Option.bind_eq_bind, Option.bind_eq_some_iff, Option.pure_def, Option.some.injEq]
    constructor
    · rintro ⟨machine, named, path, placed, word, built, rfl⟩
      exact ⟨machine, path, word, named, placed, built, rfl⟩
    · rintro ⟨machine, path, word, named, placed, built, rfl⟩
      exact ⟨machine, named, path, placed, word, built, rfl⟩
  rw [opened]
  constructor
  · rintro ⟨machine, path, word, named, placed, built, rfl⟩
    exact ⟨optional?_asText?_eq_some_iff.mp named, optional?_asPath?_eq_some_iff.mp placed,
      withDefault?_buildWord?_eq_some_iff.mp built⟩
  · rintro ⟨named, placed, built⟩
    exact ⟨_, _, _, optional?_asText?_eq_some_iff.mpr named,
      optional?_asPath?_eq_some_iff.mpr placed, withDefault?_buildWord?_eq_some_iff.mpr built, rfl⟩

/-! ## What a file sets -/

variable {ε σ : Type} {t : FileTree} {file d : Path}

/-- The file can be read, and this is what it says. -/
def Holds (t : FileTree) (file : Path) (said : Settings) : Prop :=
  ∃ text ms, t.readText file = .ok text ∧ Toml.read? text = some ms ∧ Declares ms said

/-- What a file sets.  Whatever is wrong with it, it sets nothing then. -/
inductive Counts (t : FileTree) (file : Path) : Settings → Prop
  | used {said : Settings} (holds : Holds t file said) : Counts t file said
  | useless (unheld : ∀ said, ¬ Holds t file said) : Counts t file none

/-- What a file sets as it is meant. -/
def placed (file : Path) (said : Settings) : Settings :=
  { said with machinesDir := said.machinesDir.map (rebased file) }

theorem holds_iff {said : Settings} :
    Holds t file said ↔
      ∃ text, t.readText file = .ok text ∧ (Toml.read? text).bind ofMembers? = some said := by
  simp only [Holds, Option.bind_eq_some_iff, ofMembers?_eq_some_iff]
  constructor
  · rintro ⟨text, ms, read, document, declares⟩
    exact ⟨text, read, ms, document, declares⟩
  · rintro ⟨text, read, ms, document, declares⟩
    exact ⟨text, ms, read, document, declares⟩

/-- A file sets one thing. -/
theorem Counts.unique {said other : Settings} (counts : Counts t file said)
    (again : Counts t file other) : said = other := by
  cases counts with
  | used holds =>
      cases again with
      | used holds' =>
          rcases holds_iff.mp holds with ⟨text, read, found⟩
          rcases holds_iff.mp holds' with ⟨text', read', found'⟩
          cases read.symm.trans read'
          exact Option.some.inj (found.symm.trans found')
      | useless unheld => exact absurd holds (unheld _)
  | useless unheld =>
      cases again with
      | used holds' => exact absurd holds' (unheld _)
      | useless _ => rfl

theorem load_eq_ok_iff {s : Settings} :
    load t file = .ok s ↔ ∃ said, Holds t file said ∧ s = placed file said := by
  simp only [holds_iff]
  unfold load
  constructor
  · intro loaded
    cases read : t.readText file with
    | error cause =>
        rw [read] at loaded
        cases loaded
    | ok text =>
        rw [read] at loaded
        simp only at loaded
        cases found : (Toml.read? text).bind ofMembers? with
        | none =>
            rw [found] at loaded
            cases loaded
        | some said =>
            rw [found] at loaded
            cases loaded
            exact ⟨said, ⟨text, rfl, found⟩, rfl⟩
  · rintro ⟨said, ⟨text, read, found⟩, rfl⟩
    rw [read]
    simp only [found]
    rfl

/-- The settings that are loaded are those that count.  A file that is not there cannot be read
either, so it is no case of its own. -/
theorem exists_loadIfUsable (t : FileTree) (file : Path) :
    ∃ said, Counts t file said ∧
      ∀ st : σ, (loadIfUsable t file : Action ε σ Settings).Succeeds st (placed file said) st := by
  unfold loadIfUsable
  cases loaded : load t file with
  | ok s =>
      rcases load_eq_ok_iff.mp loaded with ⟨said, holds, rfl⟩
      refine ⟨said, .used holds, fun st => ?_⟩
      rcases holds with ⟨text, _, read, _⟩
      rw [if_pos (FileTree.present_of_readText read)]
      exact Action.succeeds_pure_iff'.mpr ⟨rfl, rfl⟩
  | error cause =>
      refine ⟨none, .useless ?_, fun st => ?_⟩
      · intro said holds
        have fine := load_eq_ok_iff.mpr ⟨said, holds, rfl⟩
        cases loaded.symm.trans fine
      · by_cases present : t.present file = true
        · rw [if_pos present]
          exact Action.succeeds_note_bind_iff.mpr (Action.succeeds_pure_iff.mpr ⟨rfl, rfl⟩)
        · rw [if_neg present]
          exact Action.succeeds_pure_iff'.mpr ⟨rfl, rfl⟩

/-- Settings in a file with an absolute path do not depend on the working directory. -/
theorem loadIfUsable_congr {u : FileTree} (same : u.entries = t.entries)
    (rooted : file.isAbsolute = true) :
    (loadIfUsable u file : Action ε σ Settings) = loadIfUsable t file := by
  unfold loadIfUsable load
  rw [FileTree.present_congr same rooted, FileTree.readText_congr same rooted]

/-! ## The directory above that of a file -/

/-- The names that are joined to a directory for its settings file are its last two moves. -/
theorem steps_fileBelow (written : d.text ≠ "") :
    (fileBelow d).steps = d.steps ++ [.name ".hostconf"] ++ [.name "config.toml"] := by
  have inner : (d.child directoryName).text ≠ "" :=
    Path.text_child_ne_empty written (by decide)
  unfold fileBelow
  rw [Path.steps_child inner rfl, Path.steps_child written rfl]
  rfl

theorem isAbsolute_fileBelow (rooted : d.isAbsolute = true) :
    (fileBelow d).isAbsolute = true :=
  Path.isAbsolute_child_of_isAbsolute (Path.isAbsolute_child_of_isAbsolute rooted _) _

theorem exists_home? (rooted : d.isAbsolute = true) :
    ∃ home, home? (fileBelow d) = some home ∧ home.isAbsolute = true ∧ home.steps = d.steps := by
  rcases Path.steps_of_isAbsolute rooted with ⟨moves, begins, _⟩
  have steps := steps_fileBelow (Path.written_of_isAbsolute rooted)
  rw [begins, List.cons_append, List.cons_append] at steps
  rcases Path.exists_parent? steps with ⟨inner, above, steps⟩
  rcases Path.exists_parent? steps with ⟨home, further, same⟩
  refine ⟨home, ?_, Path.isAbsolute_of_steps same, same.trans begins.symm⟩
  rw [home?, above]
  exact further

/-- A directory in a settings file leads where it leads from the directory above. -/
theorem steps_rebased (rooted : d.isAbsolute = true) (dir : Path) :
    (rebased (fileBelow d) dir).steps = (d.join dir).steps := by
  unfold rebased
  by_cases own : dir.isAbsolute = true
  · rw [if_pos own, Path.join_of_isAbsolute d own]
  · have relative : (⟨dir.text⟩ : Path).isAbsolute = false := Bool.eq_false_iff.mpr own
    rcases exists_home? rooted with ⟨home, found, above, same⟩
    have inHome : (home.child dir.text).steps = _ :=
      Path.steps_child (Path.written_of_isAbsolute above) relative
    have below : (d.child dir.text).steps = _ :=
      Path.steps_child (Path.written_of_isAbsolute rooted) relative
    rw [if_neg own, found]
    exact inHome.trans ((congrArg (· ++ _) same).trans below.symm)

end Settings
end HostLink
