import HostLink.Machine.Catalogue
import HostLink.Proofs.Action
import HostLink.Proofs.Glob.Literal
import HostLink.Proofs.OrderedMap

namespace HostLink

/-!
# The list of machines

A machine is looked up by joining its name to the directory of machine files, and machines are
listed by searching that directory and reading names off the files.  The two agree if joining
and reading are inverse to each other, and they are where the directory is literal as a
pattern: then the files that are found are the entries of the directory that end in `.toml`,
each under the path that the look-up would use.

The file that is called `.toml` and nothing more is the exception.  It is looked up under the
empty name and listed under its own.
-/

namespace Path

/-- What ends in an extension is a name. -/
theorem ofSegment_append (stem : String) :
    Step.ofSegment (stem ++ ".toml") = some (.name (stem ++ ".toml")) := by
  have long : 5 ≤ (stem ++ ".toml").toList.length := by
    rw [String.toList_append, List.length_append]
    exact Nat.le_add_left 5 _
  unfold Step.ofSegment
  split
  case h_1 short =>
    rw [short] at long
    exact absurd long (by decide)
  case h_2 short =>
    rw [short] at long
    exact absurd long (by decide)
  case h_3 short =>
    rw [short] at long
    exact absurd long (by decide)
  case h_4 => rfl

/-- Without its extension a machine file has the name that the extension was put behind, if
there was one. -/
theorem stemOf_append (stem : String) :
    stemOf (stem ++ ".toml") = if stem = "" then ".toml" else stem := by
  have cut : Text.cutLast? '.' (stem ++ ".toml") = some (stem, "toml") := by
    rw [Text.cutLast?_eq_some_iff, String.append_assoc]
    exact ⟨rfl, by decide⟩
  unfold stemOf
  rw [cut]
  by_cases vacant : stem = ""
  · subst vacant
    rfl
  · rw [if_neg vacant]
    split
    · rename_i same
      cases same
      exact absurd rfl vacant
    · rename_i same
      cases same
      rfl
    · rename_i impossible
      cases impossible

end Path

namespace MachineDescription

/-- Only a file can be loaded. -/
theorem isFile_of_load {t : FileTree} {path : Path} {d : MachineDescription}
    (loaded : load t path = .ok d) : t.isFile path = true := by
  unfold load FileTree.textOf at loaded
  cases found : t.readText path with
  | ok text => exact FileTree.isFile_of_readText found
  | error cause =>
      rw [found] at loaded
      cases loaded

end MachineDescription

namespace Catalogue

variable {σ : Type} {c : Catalogue} {t : FileTree} {d : Path}

/-- How the machine of a file is listed under a name, if the file can be loaded. -/
def summaryOf? (t : FileTree) (path : Path) (id : String) : Option MachineSummary :=
  match MachineDescription.load t path with
  | .ok description => some ⟨id, description.summary.getD "", .file path⟩
  | .error _ => none

/-- The machine of a name whose file is there and can be loaded. -/
def described? (t : FileTree) (d : Path) (id : String) : Option MachineSummary :=
  (existingFile? t (some d) id).bind (fun path => summaryOf? t path id)

/-- The built-in machine of a name, as it is listed. -/
def registered? (c : Catalogue) (id : String) : Option MachineSummary :=
  (c.entries.find? id).map (fun entry => ⟨id, entry.summary, .builtIn⟩)

/-- What is on offer under a name: the machine of its file, if the file can be loaded, and else
the one that is built in. -/
def offered? (c : Catalogue) (t : FileTree) (d : Path) (id : String) : Option MachineSummary :=
  (described? t d id).or (c.registered? id)

theorem isFile_of_summaryOf? {path : Path} {id : String} {m : MachineSummary}
    (listed : summaryOf? t path id = some m) : t.isFile path = true := by
  unfold summaryOf? at listed
  cases loaded : MachineDescription.load t path with
  | ok description => exact MachineDescription.isFile_of_load loaded
  | error cause =>
      rw [loaded] at listed
      cases listed

theorem id_of_summaryOf? {path : Path} {id : String} {m : MachineSummary}
    (listed : summaryOf? t path id = some m) : m.id = id := by
  unfold summaryOf? at listed
  split at listed
  · cases listed
    rfl
  · cases listed

/-- That the file is there need not be asked before it is loaded. -/
theorem described?_eq (t : FileTree) (d : Path) (id : String) :
    described? t d id = summaryOf? t (fileOf d id) id := by
  unfold described? existingFile?
  rw [Option.map_some]
  by_cases file : t.isFile (fileOf d id) = true
  · rw [Option.filter_some, if_pos file, Option.bind_some]
  · rw [Option.filter_some, if_neg file, Option.bind_none]
    cases listed : summaryOf? t (fileOf d id) id with
    | none => rfl
    | some m => exact absurd (isFile_of_summaryOf? listed) file

/-! ## The machines of files -/

/-- What a file that was found adds to a list: a machine under the name in front of the last
dot, if it can be loaded. -/
def entryOf? (t : FileTree) (path : Path) : Option (String × MachineSummary) :=
  (path.fileName?.map Path.stemOf).bind (fun id => (summaryOf? t path id).map (fun m => (id, m)))

/-- Adding files never fails: a file that cannot be loaded is passed over. -/
theorem succeeds_addFiles (t : FileTree) (files : List Path)
    (found : OrderedMap String MachineSummary) (s : σ) :
    (addFiles t files found : Action Failure σ _).Succeeds s
      (found.insertAll (files.filterMap (entryOf? t))) s := by
  induction files generalizing found with
  | nil => exact Action.succeeds_pure_iff'.mpr ⟨rfl, rfl⟩
  | cons path rest inductionHypothesis =>
      unfold addFiles
      cases named : path.fileName?.map Path.stemOf with
      | none =>
          have skipped : entryOf? t path = none := by
            unfold entryOf?
            rw [named]
            rfl
          rw [List.filterMap_cons_none skipped]
          exact inductionHypothesis found
      | some id =>
          cases loaded : MachineDescription.load t path with
          | ok description =>
              have added : entryOf? t path =
                  some (id, ⟨id, description.summary.getD "", .file path⟩) := by
                unfold entryOf? summaryOf?
                rw [named, loaded]
                rfl
              rw [List.filterMap_cons_some added, OrderedMap.insertAll_cons]
              exact inductionHypothesis _
          | error cause =>
              have skipped : entryOf? t path = none := by
                unfold entryOf? summaryOf?
                rw [named, loaded]
                rfl
              rw [List.filterMap_cons_none skipped]
              exact Action.succeeds_note_bind_iff.mpr (inductionHypothesis found)

/-- The file names of machines. -/
theorem isEnding_toml : Glob.IsEnding ".toml" where
  single := by decide
  plain := by simp [Glob.isSpecial]

/-- In a literal directory the files are found that end in `.toml`. -/
theorem machineFiles_of_literal (literal : Glob.Literal d) :
    ∃ files, machineFiles t d = .ok files ∧
      ∀ path, path ∈ files ↔ t.isDirectory d = true ∧
        ∃ stem, stem ++ ".toml" ∈ Glob.namesAt t d ∧ path = fileOf d stem := by
  unfold machineFiles
  by_cases directory : t.isDirectory d = true
  · refine ⟨Path.sort (((Glob.namesAt t d).filter (Text.endsWith ".toml")).map d.child), ?_, ?_⟩
    · have found := Glob.paths_below literal isEnding_toml directory
      have pattern : Glob.below d ".toml" = d.child "*.toml" := rfl
      rw [pattern] at found
      rw [if_pos directory, found]
    · intro path
      unfold Path.sort
      rw [List.mem_mergeSort, List.mem_map]
      simp only [directory, true_and, List.mem_filter]
      constructor
      · rintro ⟨name, ⟨listed, ends⟩, same⟩
        rcases Text.endsWith_iff.mp ends with ⟨stem, rfl⟩
        exact ⟨stem, listed, same.symm⟩
      · rintro ⟨stem, listed, same⟩
        exact ⟨stem ++ ".toml", ⟨listed, Text.endsWith_iff.mpr ⟨stem, rfl⟩⟩, same.symm⟩
  · refine ⟨[], ?_, ?_⟩
    · rw [if_neg directory]
    · intro path
      simp [directory]

/-- What a file that was found adds, by what stands in front of its extension. -/
theorem entryOf?_fileOf (written : d.text ≠ "") {stem : String}
    (listed : stem ++ ".toml" ∈ Glob.namesAt t d) :
    entryOf? t (fileOf d stem) =
      (summaryOf? t (fileOf d stem) (if stem = "" then ".toml" else stem)).map
        (fun m => ((if stem = "" then ".toml" else stem), m)) := by
  rcases Glob.isName_of_mem_namesAt listed with ⟨single, moves⟩
  have named : (fileOf d stem).fileName? = some (stem ++ ".toml") :=
    Path.fileName?_child written single moves
  unfold entryOf?
  rw [named, Option.map_some, Path.stemOf_append, Option.bind_some]

/-- A machine file that can be loaded is among the names of the directory. -/
theorem mem_namesAt_of_described? (written : d.text ≠ "") {id : String} {m : MachineSummary}
    (single : '/' ∉ id.toList) (described : described? t d id = some m) :
    t.isDirectory d = true ∧ id ++ ".toml" ∈ Glob.namesAt t d := by
  rw [described?_eq] at described
  have present := FileTree.present_of_isFile (isFile_of_summaryOf? described)
  have single' : '/' ∉ (id ++ ".toml").toList := by
    rw [String.toList_append]
    intro inside
    rcases List.mem_append.mp inside with early | late
    · exact single early
    · exact isEnding_toml.single late
  have moves := Path.ofSegment_append id
  rcases FileTree.directory_of_present_child written single' present with
    ⟨location, place, located, directory, followed, _⟩
  refine ⟨FileTree.isDirectory_iff.mpr ⟨location, located, directory⟩, ?_⟩
  unfold Glob.namesAt
  rw [located]
  exact FileTree.mem_names_iff.mpr (FileTree.follow_name moves followed).2

/-- The names that file and look-up agree on: all that can be part of a file name, unless the
file without a name in front of its extension comes between. -/
structure Agreed (t : FileTree) (d : Path) (id : String) : Prop where
  single : '/' ∉ id.toList
  distinct : id = "" ∨ id = ".toml" → described? t d "" = none

/-- The files add a machine under a name exactly if a look-up by this name loads it. -/
theorem mem_entries_iff (written : d.text ≠ "") {files : List Path}
    (found : ∀ path, path ∈ files ↔ t.isDirectory d = true ∧
      ∃ stem, stem ++ ".toml" ∈ Glob.namesAt t d ∧ path = fileOf d stem)
    {id : String} (agreed : Agreed t d id) {m : MachineSummary} :
    (id, m) ∈ files.filterMap (entryOf? t) ↔ described? t d id = some m := by
  rw [List.mem_filterMap]
  constructor
  · rintro ⟨path, listed, entry⟩
    rcases (found path).mp listed with ⟨_, stem, named, same⟩
    subst same
    rw [entryOf?_fileOf written named] at entry
    rcases Option.map_eq_some_iff.mp entry with ⟨other, loaded, pair⟩
    cases pair
    -- Only the file without a stem is listed under another name than it is looked up by.
    by_cases vacant : stem = ""
    · subst vacant
      have none := agreed.distinct (Or.inr rfl)
      rw [described?_eq] at none
      unfold summaryOf? at none loaded
      split at loaded
      · rename_i known
        rw [known] at none
        cases none
      · cases loaded
    · simp only [if_neg vacant] at loaded ⊢
      rw [described?_eq]
      exact loaded
  · intro described
    rcases mem_namesAt_of_described? written agreed.single described with ⟨directory, named⟩
    have notVacant : id ≠ "" := by
      rintro rfl
      rw [agreed.distinct (Or.inl rfl)] at described
      cases described
    refine ⟨fileOf d id, (found _).mpr ⟨directory, id, named, rfl⟩, ?_⟩
    rw [entryOf?_fileOf written named]
    simp only [if_neg notVacant]
    rw [← described?_eq, described]
    rfl

/-! ## The list -/

theorem find?_summaries (c : Catalogue) (id : String) : c.summaries.find? id = c.registered? id := by
  have bound : ∀ other, (id, other) ∈ c.entries.entries.map (fun x =>
      (x.1, (⟨x.1, x.2.summary, .builtIn⟩ : MachineSummary))) ↔ c.registered? id = some other := by
    intro other
    unfold registered?
    rw [List.mem_map, Option.map_eq_some_iff]
    constructor
    · rintro ⟨⟨key, entry⟩, listed, same⟩
      cases same
      exact ⟨entry, (OrderedMap.find?_eq_some_iff _).mpr listed, rfl⟩
    · rintro ⟨entry, found, same⟩
      exact ⟨(id, entry), (OrderedMap.find?_eq_some_iff _).mp found, by rw [← same]⟩
  unfold summaries OrderedMap.ofList
  cases registered : c.registered? id with
  | none =>
      apply OrderedMap.find?_insertAll_of_notMem
      intro other listed
      have impossible := (bound other).mp listed
      rw [registered] at impossible
      cases impossible
  | some m =>
      apply OrderedMap.find?_insertAll_of_unique
      · exact (bound m).mpr registered
      · intro other listed
        have same := (bound other).mp listed
        rw [registered] at same
        exact (Option.some.inj same).symm

/-- A list of a literal directory, by the names that it is ordered by. -/
theorem succeeds_list (c : Catalogue) (t : FileTree) (literal : Glob.Literal d) (s : σ) :
    ∃ all : OrderedMap String MachineSummary,
      (c.list t (some d) : Action Failure σ _).Succeeds s all.values s ∧
      (∀ id m, all.find? id = some m → m.id = id) ∧
      ∀ id, Agreed t d id → all.find? id = offered? c t d id := by
  rcases machineFiles_of_literal (t := t) literal with ⟨files, searched, found⟩
  refine ⟨c.summaries.insertAll (files.filterMap (entryOf? t)), ?_, ?_, ?_⟩
  · unfold list
    simp only [searched]
    apply Action.succeeds_ofExcept_bind_iff.mpr
    refine ⟨files, rfl, ?_⟩
    apply Action.succeeds_bind_iff.mpr
    exact ⟨_, s, succeeds_addFiles t files c.summaries s, Action.succeeds_pure_iff.mpr ⟨rfl, rfl⟩⟩
  · intro id m bound
    rcases OrderedMap.bound_of_insertAll bound with listed | registered
    · rcases List.mem_filterMap.mp listed with ⟨path, _, entry⟩
      unfold entryOf? at entry
      rcases Option.bind_eq_some_iff.mp entry with ⟨stem, _, loaded⟩
      rcases Option.map_eq_some_iff.mp loaded with ⟨other, summary, same⟩
      cases same
      exact id_of_summaryOf? summary
    · rw [find?_summaries] at registered
      rcases Option.map_eq_some_iff.mp registered with ⟨entry, _, same⟩
      rw [← same]
  · intro id agreed
    have bound := fun m => mem_entries_iff literal.written found agreed (m := m)
    unfold offered?
    cases described : described? t d id with
    | none =>
        rw [Option.none_or, ← find?_summaries]
        apply OrderedMap.find?_insertAll_of_notMem
        intro m listed
        have impossible := (bound m).mp listed
        rw [described] at impossible
        cases impossible
    | some m =>
        rw [Option.some_or]
        apply OrderedMap.find?_insertAll_of_unique
        · exact (bound m).mpr described
        · intro other listed
          have same := (bound other).mp listed
          rw [described] at same
          exact (Option.some.inj same).symm

/-- Whatever the files of a literal directory hold, the machines are listed.  Every name is
listed at most once, and under each name stands what is on offer: the machine of the file that
a look-up would load, and else the one that is built in. -/
theorem list_offers (c : Catalogue) (t : FileTree) (literal : Glob.Literal d) (s : σ) :
    ∃ machines, (c.list t (some d) : Action Failure σ _).Succeeds s machines s ∧
      (machines.map MachineSummary.id).Nodup ∧
      ∀ id, Agreed t d id → ∀ m, (m ∈ machines ∧ m.id = id) ↔ offered? c t d id = some m := by
  rcases succeeds_list c t literal s with ⟨all, listed, told, offers⟩
  refine ⟨all.values, listed, all.nodup_values told, ?_⟩
  intro id agreed m
  rw [← offers id agreed, OrderedMap.mem_values_iff]
  constructor
  · rintro ⟨⟨key, bound⟩, same⟩
    have tells := told key m bound
    rw [← same, tells]
    exact bound
  · intro bound
    exact ⟨⟨id, bound⟩, told id m bound⟩

/-! A directory of two machine files, one of which is not text. -/

def laboratory : FileTree :=
  ((FileTree.empty.putFile? ["m", "lab.toml"] [] false).bind (fun t =>
    t.putFile? ["m", "ubuntu.toml"] [0xFF] false)).getD FileTree.empty

/-- A file that cannot be loaded hides no built-in machine. -/
theorem list_offers_laboratory :
    Glob.Literal ⟨"/m"⟩ ∧
      ∃ machines, (usual.list laboratory (some ⟨"/m"⟩) : Action Failure Unit _).Succeeds ()
          machines () ∧
        (⟨"ubuntu", "Ubuntu distribution packages", .builtIn⟩ : MachineSummary) ∈ machines := by
  have literal : Glob.Literal ⟨"/m"⟩ := by decide
  rcases list_offers usual laboratory literal () with ⟨machines, listed, _, offers⟩
  have agreed : Agreed laboratory ⟨"/m"⟩ "ubuntu" :=
    ⟨by decide, fun special => absurd special (by decide)⟩
  have none : described? laboratory ⟨"/m"⟩ "ubuntu" = none := rfl
  have offered : offered? usual laboratory ⟨"/m"⟩ "ubuntu" =
      some ⟨"ubuntu", "Ubuntu distribution packages", .builtIn⟩ := by
    unfold offered?
    rw [none]
    rfl
  exact ⟨literal, machines, listed, ((offers "ubuntu" agreed _).mpr offered).1⟩

/-! ## Directories that are no pattern -/

/-- A bracket in the name of the directory, without its closing one, makes the pattern
unreadable, and the list fails however good the files are. -/
theorem list_fails_of_bracket (c : Catalogue) (s : σ) {front back : List Char}
    (directory : t.isDirectory d = true) (whole : d.text.toList = front ++ '[' :: back)
    (plain : ∀ x ∈ front, Glob.isSpecial x = false) (opened : ']' ∉ back) :
    ((c.list t (some d) : Action Failure σ _) s).result =
      .error (.invalidPattern ⟨(d.child "*.toml").text, ⟨front.length, .openClass⟩⟩) := by
  have relative : (⟨"*.toml"⟩ : Path).isAbsolute = false := rfl
  rcases Path.text_child d relative with ⟨between, slash, text⟩
  have later : ']' ∉ back ++ (between.toList ++ "*.toml".toList) := by
    intro inside
    rcases List.mem_append.mp inside with own | added
    · exact opened own
    · rcases slash with rfl | rfl
      · exact absurd added (by decide)
      · exact absurd added (by decide)
  have characters : (d.child "*.toml").text.toList =
      front ++ '[' :: (back ++ (between.toList ++ "*.toml".toList)) := by
    rw [text, String.toList_append, String.toList_append, whole, List.append_assoc]
    rfl
  have read : Glob.Query.read (d.child "*.toml").text = .error ⟨front.length, .openClass⟩ := by
    unfold Glob.Query.read
    rw [Glob.tokens_of_bracket plain later characters]
    rfl
  have searched : machineFiles t d =
      .error (.invalidPattern ⟨(d.child "*.toml").text, ⟨front.length, .openClass⟩⟩) := by
    unfold machineFiles Glob.paths
    rw [if_pos directory, read]
  unfold list
  simp only [searched]
  rfl

def bracketed : FileTree :=
  (FileTree.empty.putFile? ["m[", "lab.toml"] [] false).getD FileTree.empty

/-- In `m[` nothing is listed, although the file there can be loaded. -/
theorem not_forall_list_offers :
    ¬ ∀ (t : FileTree) (d : Path), ∃ machines,
      ((usual.list t (some d) : Action Failure Unit _) ()).result = .ok machines := by
  intro every
  rcases every bracketed ⟨"m["⟩ with ⟨machines, listed⟩
  have fails := list_fails_of_bracket usual () (t := bracketed) (d := ⟨"m["⟩) (by decide)
    (show "m[".toList = ['m'] ++ '[' :: [] by decide) (by simp [Glob.isSpecial]) (by decide)
  rw [listed] at fails
  cases fails

end Catalogue
end HostLink
