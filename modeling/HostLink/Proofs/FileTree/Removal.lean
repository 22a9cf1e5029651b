import HostLink.Proofs.FileTree

namespace HostLink
namespace FileTree

/-!
# Trees from which files are taken

When files are taken out of a tree, its directories stay, and so does every way that passes
through directories.  So what a path denotes afterwards it denoted before, and what it denoted
before is denoted still, unless it was taken.  Nothing else can be told by looking: what a
directory lists afterwards it listed before.
-/

/-- Whether a file is at a location. -/
def holdsFile (t : FileTree) (location : Location) : Bool :=
  match t.entryAt location with
  | some (.file _ _) => true
  | _ => false

variable {t t' t'' : FileTree}

theorem holdsFile_eq_false_of_directory {location : Location}
    (directory : t.entryAt location = some .directory) : t.holdsFile location = false := by
  unfold holdsFile
  rw [directory]

theorem present_of_holdsFile {location : Location} (file : t.holdsFile location = true) :
    (t.entryAt location).isSome = true := by
  unfold holdsFile at file
  split at file
  · rename_i entry
    rw [entry]
    rfl
  · cases file

theorem holdsFile_congr {location : Location} (same : t'.entryAt location = t.entryAt location) :
    t'.holdsFile location = t.holdsFile location := by
  unfold holdsFile
  rw [same]

/-! ## Looking at what is left -/

/-- One tree is what is left of another when files are taken out of it. -/
structure Thinned (t t' : FileTree) : Prop where
  workDir : t'.workDir = t.workDir
  entries : ∀ location, t'.entryAt location = t.entryAt location ∨
    (t'.entryAt location = none ∧ t.holdsFile location = true)

namespace Thinned

theorem entryAt_of_present (thinned : Thinned t t') {location : Location}
    (present : (t'.entryAt location).isSome = true) :
    t'.entryAt location = t.entryAt location := by
  rcases thinned.entries location with same | ⟨gone, _⟩
  · exact same
  · rw [gone] at present
    cases present

theorem present (thinned : Thinned t t') {location : Location}
    (present : (t'.entryAt location).isSome = true) : (t.entryAt location).isSome = true := by
  rw [← thinned.entryAt_of_present present]
  exact present

theorem holdsFile (thinned : Thinned t t') {location : Location}
    (file : t'.holdsFile location = true) : t.holdsFile location = true := by
  rw [← holdsFile_congr (thinned.entryAt_of_present (present_of_holdsFile file))]
  exact file

theorem directory_iff (thinned : Thinned t t') {location : Location} :
    t'.entryAt location = some .directory ↔ t.entryAt location = some .directory := by
  constructor
  · intro directory
    rw [← thinned.entryAt_of_present (by rw [directory]; rfl)]
    exact directory
  · intro directory
    rcases thinned.entries location with same | ⟨_, file⟩
    · rw [same]
      exact directory
    · rw [holdsFile_eq_false_of_directory directory] at file
      cases file

theorem takes_iff (thinned : Thinned t t') {location next : Location} {segment : String} :
    t'.Takes location segment next ↔
      t.Takes location segment next ∧ (t'.entryAt next).isSome = true := by
  constructor
  · intro takes
    refine ⟨?_, takes.present⟩
    cases takes with
    | idle directory still => exact .idle (thinned.directory_iff.mp directory) still
    | up directory => exact .up (thinned.directory_iff.mp directory)
    | name present => exact .name (thinned.present present)
  · rintro ⟨takes, present⟩
    cases takes with
    | idle directory still => exact .idle (thinned.directory_iff.mpr directory) still
    | up directory => exact .up (thinned.directory_iff.mpr directory)
    | name _ => exact .name present

/-- A way leads where it led before, unless what is at its end was taken. -/
theorem follow_eq_ok_iff (thinned : Thinned t t') {location place : Location}
    {segments : List String} (some : segments ≠ []) :
    t'.follow location segments = .ok place ↔
      t.follow location segments = .ok place ∧ (t'.entryAt place).isSome = true := by
  induction segments generalizing location with
  | nil => exact absurd rfl some
  | cons segment rest inductionHypothesis =>
      rw [follow_cons_eq_ok_iff, follow_cons_eq_ok_iff]
      cases rest with
      | nil =>
          constructor
          · rintro ⟨next, takes, ended⟩
            cases Except.ok.inj ended
            rcases thinned.takes_iff.mp takes with ⟨before, present⟩
            exact ⟨⟨_, before, rfl⟩, present⟩
          · rintro ⟨⟨next, takes, ended⟩, present⟩
            cases Except.ok.inj ended
            exact ⟨_, thinned.takes_iff.mpr ⟨takes, present⟩, rfl⟩
      | cons second rest =>
          have later := fun next => @inductionHypothesis next (List.cons_ne_nil second rest)
          constructor
          · rintro ⟨next, takes, followed⟩
            rcases (later next).mp followed with ⟨before, present⟩
            exact ⟨⟨next, (thinned.takes_iff.mp takes).1, before⟩, present⟩
          · rintro ⟨⟨next, takes, followed⟩, present⟩
            -- The way goes on from here, so this is a directory, and directories stay.
            have directory := thinned.directory_iff.mpr (directory_of_follow followed)
            exact ⟨next, thinned.takes_iff.mpr ⟨takes, by rw [directory]; rfl⟩,
              (later next).mpr ⟨followed, present⟩⟩

theorem locate_eq_ok_iff (thinned : Thinned t t') {p : Path} {location : Location} :
    t'.locate p = .ok location ↔
      t.locate p = .ok location ∧ (t'.entryAt location).isSome = true := by
  have start : t'.start p = t.start p := by
    unfold FileTree.start
    rw [thinned.workDir]
  rw [FileTree.locate_eq_ok_iff, FileTree.locate_eq_ok_iff, start,
    thinned.follow_eq_ok_iff (Text.pieces_ne_nil '/' p.text)]
  simp only [and_assoc]

theorem isDirectory_iff (thinned : Thinned t t') {p : Path} :
    t'.isDirectory p = true ↔ t.isDirectory p = true := by
  rw [FileTree.isDirectory_iff, FileTree.isDirectory_iff]
  constructor
  · rintro ⟨location, located, directory⟩
    exact ⟨location, (thinned.locate_eq_ok_iff.mp located).1, thinned.directory_iff.mp directory⟩
  · rintro ⟨location, located, directory⟩
    have still := thinned.directory_iff.mpr directory
    exact ⟨location, thinned.locate_eq_ok_iff.mpr ⟨located, by rw [still]; rfl⟩, still⟩

theorem present_of_present (thinned : Thinned t t') {p : Path} (present : t'.present p = true) :
    t.present p = true := by
  rcases present_iff.mp present with ⟨location, located, there⟩
  exact present_iff.mpr ⟨location, (thinned.locate_eq_ok_iff.mp located).1, thinned.present there⟩

theorem mem_below (thinned : Thinned t t') {location : Location} {way : List String}
    (listed : way ∈ t'.below location) : way ∈ t.below location := by
  rcases mem_below_iff.mp listed with ⟨some, present⟩
  exact mem_below_iff.mpr ⟨some, thinned.present present⟩

theorem mem_names (thinned : Thinned t t') {location : Location} {name : String}
    (listed : name ∈ t'.names location) : name ∈ t.names location :=
  mem_names_iff.mpr (thinned.present (mem_names_iff.mp listed))

end Thinned

/-! ## Taking files -/

/-- A tree without the files at some of its locations. -/
structure Without (t : FileTree) (taken : Location → Prop) (t' : FileTree) : Prop where
  workDir : t'.workDir = t.workDir
  gone : ∀ location, t.holdsFile location = true → taken location → t'.entryAt location = none
  kept : ∀ location, ¬ (t.holdsFile location = true ∧ taken location) →
    t'.entryAt location = t.entryAt location

theorem Without.thinned {taken : Location → Prop} (without : Without t taken t') :
    Thinned t t' := by
  refine ⟨without.workDir, fun location => ?_⟩
  by_cases lost : t.holdsFile location = true ∧ taken location
  · exact Or.inr ⟨without.gone location lost.1 lost.2, lost.1⟩
  · exact Or.inl (without.kept location lost)

theorem ne_nil_of_holdsFile {location : Location} (file : t.holdsFile location = true) :
    location ≠ [] := by
  rintro rfl
  cases file

theorem without_eraseFile {location : Location} (file : t.holdsFile location = true) :
    Without t (· = location) (t.eraseFile location) := by
  have below := ne_nil_of_holdsFile file
  have erased : (t.eraseFile location).entries = t.entries.erase location := by
    unfold eraseFile
    refine if_neg ?_
    rw [← entryAt_of_ne_nil t below]
    intro directory
    rw [holdsFile_eq_false_of_directory directory] at file
    cases file
  refine ⟨rfl, ?_, ?_⟩
  · rintro other _ rfl
    rw [entryAt_of_ne_nil _ below, erased, Option.eq_none_iff_forall_ne_some]
    intro entry found
    exact ((OrderedMap.find?_erase _).mp found).2 rfl
  · intro other kept
    by_cases root : other = []
    · rw [root]
      rfl
    · rw [entryAt_of_ne_nil _ root, entryAt_of_ne_nil _ root, erased]
      apply Option.ext
      intro entry
      rw [OrderedMap.find?_erase]
      constructor
      · exact fun found => found.1
      · intro found
        refine ⟨found, ?_⟩
        rintro rfl
        exact kept ⟨file, rfl⟩

/-- Only a file can be removed, and nothing else goes with it. -/
theorem remove_eq_ok_iff {p : Path} :
    t.remove p = .ok t' ↔ ∃ location, t.locate p = .ok location ∧
      t.holdsFile location = true ∧ t' = t.eraseFile location := by
  unfold remove holdsFile
  cases t.locate p with
  | error cause => simp
  | ok location =>
      simp only [Except.ok.injEq, exists_eq_left']
      cases t.entryAt location with
      | none => simp
      | some entry => cases entry <;> simp [eq_comm]

theorem remove_eq_error_iff {p : Path} :
    (∃ cause, t.remove p = .error cause) ↔
      ∀ location, t.locate p = .ok location → t.holdsFile location = false := by
  constructor
  · rintro ⟨cause, failed⟩ location located
    apply Bool.eq_false_iff.mpr
    intro file
    rw [remove_eq_ok_iff.mpr ⟨location, located, file, rfl⟩] at failed
    cases failed
  · intro none
    cases removed : t.remove p with
    | error cause => exact ⟨cause, rfl⟩
    | ok left =>
        rcases remove_eq_ok_iff.mp removed with ⟨location, located, file, _⟩
        rw [none location located] at file
        cases file

/-! ## What is gone -/

/-- The locations of the files of one tree where another one has nothing. -/
def lost (t t' : FileTree) : List Location :=
  t.entries.keys.filter (fun location => t.holdsFile location && (t'.entryAt location).isNone)

theorem mem_lost_iff {location : Location} :
    location ∈ t.lost t' ↔ t.holdsFile location = true ∧ t'.entryAt location = none := by
  unfold lost
  rw [List.mem_filter, Bool.and_eq_true, Option.isNone_iff_eq_none]
  constructor
  · exact fun found => found.2
  · intro found
    exact ⟨(mem_keys_iff (ne_nil_of_holdsFile found.1)).mpr (present_of_holdsFile found.1), found⟩

theorem nodup_lost (t t' : FileTree) : (t.lost t').Nodup := by
  have keys : t.entries.keys.Pairwise (fun a b => KeyOrder.before a b = true) := by
    unfold OrderedMap.keys
    rw [List.pairwise_map]
    exact t.entries.sorted
  exact (keys.imp KeyOrder.ne_of_before).filter _

theorem lost_self (t : FileTree) : t.lost t = [] := by
  rw [List.eq_nil_iff_forall_not_mem]
  intro location listed
  rcases mem_lost_iff.mp listed with ⟨file, none⟩
  have present := present_of_holdsFile file
  rw [none] at present
  cases present

/-- After one file more is gone, one location more is lost. -/
theorem length_lost_eraseFile {location : Location} (file : t.holdsFile location = true)
    (thinned : Thinned (t.eraseFile location) t') :
    (t.lost t').length = ((t.eraseFile location).lost t').length + 1 := by
  have without := without_eraseFile file
  have missing : (t.eraseFile location).entryAt location = none :=
    without.gone location file rfl
  have gone : t'.entryAt location = none := by
    rcases thinned.entries location with same | ⟨gone, _⟩
    · rw [same, missing]
    · exact gone
  have fresh : location ∉ (t.eraseFile location).lost t' := by
    intro listed
    have present := present_of_holdsFile (mem_lost_iff.mp listed).1
    rw [missing] at present
    cases present
  have same : (t.lost t').Perm (location :: (t.eraseFile location).lost t') := by
    refine (List.perm_ext_iff_of_nodup (nodup_lost t t')
      (List.nodup_cons.mpr ⟨fresh, nodup_lost _ _⟩)).mpr ?_
    intro other
    rw [List.mem_cons, mem_lost_iff, mem_lost_iff]
    by_cases own : other = location
    · rw [own]
      exact iff_of_true ⟨file, gone⟩ (Or.inl rfl)
    · rw [holdsFile_congr (without.kept other (fun taken => own taken.2))]
      exact ⟨Or.inr, fun either => either.resolve_left own⟩
  rw [same.length_eq, List.length_cons]

end FileTree
end HostLink
