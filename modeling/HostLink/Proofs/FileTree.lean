import HostLink.Misconfiguration
import HostLink.Proofs.Path

namespace HostLink

/-!
# What a tree holds

A requirement is met exactly by a path that denotes something, whether a file or a directory.
The component only chooses the words of the refusal.

Whatever a path denotes lies in a directory, which is what the path without its last name
denotes.  So a name that is joined to a directory leads to one of the names that the directory
lists, or to nothing.
-/

namespace FileTree

@[simp]
theorem require_eq_ok_iff {t : FileTree} {path : Path} {component : String} {a : Unit} :
    t.require path component = .ok a ↔ t.present path = true := by
  unfold require
  by_cases present : t.present path = true <;> simp [present]

theorem require_of_absent {t : FileTree} {path : Path} (absent : t.present path = false)
    (component : String) : t.require path component = .error (.pathNotFound component path) := by
  unfold require
  rw [if_neg]
  rw [absent]
  exact Bool.false_ne_true

variable {t : FileTree}

/-- What follows a way is followed from where the way leads. -/
theorem follow_append (location : Location) (segments more : List String) :
    t.follow location (segments ++ more) =
      match t.follow location segments with
      | .ok next => t.follow next more
      | .error cause => .error cause := by
  induction segments generalizing location with
  | nil => rfl
  | cons segment rest inductionHypothesis =>
      rw [List.cons_append, follow, follow]
      cases t.entryAt location with
      | none => rfl
      | some entry =>
          cases entry with
          | file content executable => rfl
          | directory =>
              simp only [inductionHypothesis]
              split
              · rfl
              · split
                · rfl
                · split
                  · rfl
                  · split
                    · rfl
                    · rfl

/-- Every segment is taken from a directory. -/
theorem directory_of_follow {location next : Location} {segment : String} {rest : List String}
    (followed : t.follow location (segment :: rest) = .ok next) :
    t.entryAt location = some .directory := by
  rw [follow] at followed
  cases found : t.entryAt location with
  | none =>
      rw [found] at followed
      cases followed
  | some entry =>
      cases entry with
      | directory => rfl
      | file content executable =>
          rw [found] at followed
          cases followed

/-- Where one segment leads from a location. -/
inductive Takes (t : FileTree) (location : Location) : String → Location → Prop
  | idle {segment : String} (directory : t.entryAt location = some .directory)
      (still : Path.isIdle segment = true) : Takes t location segment location
  | up (directory : t.entryAt location = some .directory) :
      Takes t location ".." location.dropLast
  | name {name : String} (present : (t.entryAt (location ++ [name])).isSome = true) :
      Takes t location name (location ++ [name])

/-- The directory above a directory is there; above the root it is the root itself. -/
theorem directory_dropLast {location : Location}
    (directory : t.entryAt location = some .directory) :
    t.entryAt location.dropLast = some .directory := by
  rcases List.eq_nil_or_concat location with rfl | ⟨front, last, rfl⟩
  · exact directory
  · rw [List.concat_eq_append] at directory ⊢
    rw [List.dropLast_concat]
    exact t.entryAt_parent (by rw [directory]; rfl)

/-- Where a segment leads there is something. -/
theorem Takes.present {location next : Location} {segment : String}
    (takes : Takes t location segment next) : (t.entryAt next).isSome = true := by
  cases takes with
  | idle directory _ => rw [directory]; rfl
  | up directory => rw [directory_dropLast directory]; rfl
  | name present => exact present

theorem proper_of_isName {name : String} (named : isName name = true) :
    name ≠ "" ∧ name ≠ "." ∧ name ≠ ".." ∧ '/' ∉ name.toList ∧ '\x00' ∉ name.toList ∧
      name.utf8ByteSize ≤ longestName := by
  simpa only [isName, Bool.and_eq_true, bne_iff_ne, ne_eq, Bool.not_eq_true',
    List.contains_eq_mem, decide_eq_false_iff_not, decide_eq_true_eq, and_assoc] using named

/-- Whatever is in a directory stands for itself as a segment of a path. -/
theorem ofSegment_of_entryAt {location : Location} {name : String}
    (present : (t.entryAt (location ++ [name])).isSome = true) :
    Path.Step.ofSegment name = some (.name name) := by
  rcases proper_of_isName (t.isName_of_entryAt present) with ⟨notEmpty, notHere, notUp, _⟩
  unfold Path.Step.ofSegment
  split
  · exact absurd rfl notEmpty
  · exact absurd rfl notHere
  · exact absurd rfl notUp
  · rfl

/-- A way is followed segment by segment, each from where the one before it leads. -/
theorem follow_cons_eq_ok_iff {location place : Location} {segment : String}
    {rest : List String} :
    t.follow location (segment :: rest) = .ok place ↔
      ∃ next, Takes t location segment next ∧ t.follow next rest = .ok place := by
  constructor
  · intro followed
    have directory := directory_of_follow followed
    rw [follow, directory] at followed
    simp only at followed
    split at followed
    · rename_i idle
      exact ⟨location, .idle directory (Path.isIdle_iff.mpr idle), followed⟩
    · split at followed
      · rename_i up
        subst up
        exact ⟨location.dropLast, .up directory, followed⟩
      · split at followed
        · cases followed
        · split at followed
          · rename_i present
            exact ⟨location ++ [segment], .name present, followed⟩
          · cases followed
  · rintro ⟨next, takes, followed⟩
    rw [follow]
    cases takes with
    | idle directory still =>
        simp only [directory, Path.isIdle_iff.mp still, if_true]
        exact followed
    | up directory =>
        rw [directory]
        exact followed
    | name present =>
        rcases proper_of_isName (t.isName_of_entryAt present) with
          ⟨notEmpty, notHere, notUp, _, _, short⟩
        simp only [t.entryAt_parent present, notEmpty, notHere, notUp, or_self, if_false,
          Nat.not_lt_of_ge short, present, if_true]
        exact followed

theorem follow_idle {location : Location} {segment : String}
    (directory : t.entryAt location = some .directory) (idle : Path.isIdle segment = true) :
    t.follow location [segment] = .ok location := by
  rw [follow]
  simp only [directory, Path.isIdle_iff.mp idle, if_true]
  rfl

/-- A segment that makes no move can be left out before another one. -/
theorem follow_idle_cons (location : Location) {idle segment : String} (rest : List String)
    (still : Path.isIdle idle = true) :
    t.follow location (idle :: segment :: rest) = t.follow location (segment :: rest) := by
  rw [follow, if_pos (Path.isIdle_iff.mp still), follow]
  split
  · rfl
  · rfl
  · simp only

/-- What is followed to its end holds no character that no name can hold. -/
theorem noNul_of_follow {location place : Location} {segments : List String}
    (followed : t.follow location segments = .ok place) :
    ∀ segment ∈ segments, '\x00' ∉ segment.toList := by
  induction segments generalizing location with
  | nil => exact nofun
  | cons segment rest inductionHypothesis =>
      rcases follow_cons_eq_ok_iff.mp followed with ⟨next, takes, others⟩
      have own : '\x00' ∉ segment.toList := by
        cases takes with
        | idle _ still =>
            rcases Path.isIdle_iff.mp still with rfl | rfl <;> decide
        | up _ => decide
        | name present => exact (proper_of_isName (t.isName_of_entryAt present)).2.2.2.2.1
      intro other listed
      rcases List.mem_cons.mp listed with rfl | later
      · exact own
      · exact inductionHypothesis others other later

/-- A name leads from a directory to the entry of this name. -/
theorem follow_name {location next : Location} {name : String}
    (moves : Path.Step.ofSegment name = some (.name name))
    (followed : t.follow location [name] = .ok next) :
    next = location ++ [name] ∧ (t.entryAt (location ++ [name])).isSome = true := by
  rcases follow_cons_eq_ok_iff.mp followed with ⟨reached, takes, ended⟩
  have same : reached = next := Except.ok.inj ended
  subst same
  cases takes with
  | idle _ still =>
      simp only [Path.isIdle, Bool.or_eq_true, beq_iff_eq] at still
      rcases still with rfl | rfl <;> cases moves
  | up _ => cases moves
  | name present => exact ⟨rfl, present⟩

/-- Where a way ends there is something. -/
theorem present_of_follow {location place : Location} {segments : List String}
    (some : segments ≠ []) (followed : t.follow location segments = .ok place) :
    (t.entryAt place).isSome = true := by
  induction segments generalizing location with
  | nil => exact absurd rfl some
  | cons segment rest inductionHypothesis =>
      rcases follow_cons_eq_ok_iff.mp followed with ⟨next, takes, others⟩
      cases rest with
      | cons second rest => exact inductionHypothesis (List.cons_ne_nil _ _) others
      | nil =>
          have same : next = place := Except.ok.inj others
          subst same
          exact takes.present

/-- A location is reached over the same segments under every limit on the text that is kept. -/
theorem locate_of_follow {p : Path} {location : Location} (written : p.text ≠ "")
    (noNul : p.text.toList.contains '\x00' = false) (short : p.text.utf8ByteSize ≤ longestPath)
    (followed : t.follow (t.start p) (Text.pieces '/' p.text) = .ok location) :
    t.locate p = .ok location := by
  unfold locate
  simp only [noNul, written, Nat.not_lt_of_ge short, Bool.false_eq_true, if_false]
  exact followed

theorem follow_of_locate {p : Path} {location : Location} (located : t.locate p = .ok location) :
    p.text ≠ "" ∧ p.text.toList.contains '\x00' = false ∧ p.text.utf8ByteSize ≤ longestPath ∧
      t.follow (t.start p) (Text.pieces '/' p.text) = .ok location := by
  unfold locate at located
  split at located
  · cases located
  · rename_i noNul
    split at located
    · cases located
    · rename_i written
      split at located
      · cases located
      · rename_i short
        exact ⟨written, Bool.eq_false_iff.mpr noNul, Nat.le_of_not_lt short, located⟩

/-- A path denotes a location if it is kept within the limits and leads there. -/
theorem locate_eq_ok_iff {p : Path} {location : Location} :
    t.locate p = .ok location ↔
      p.text ≠ "" ∧ p.text.utf8ByteSize ≤ longestPath ∧
        t.follow (t.start p) (Text.pieces '/' p.text) = .ok location := by
  constructor
  · intro located
    rcases follow_of_locate located with ⟨written, _, short, followed⟩
    exact ⟨written, short, followed⟩
  · rintro ⟨written, short, followed⟩
    apply locate_of_follow written ?_ short followed
    rw [Bool.eq_false_iff, Ne, List.contains_iff_mem]
    intro nul
    have cut : ∃ piece ∈ Text.pieces '/' p.text, '\x00' ∈ piece.toList :=
      Text.exists_mem_pieces nul (by decide)
    rcases cut with ⟨piece, listed, inside⟩
    exact noNul_of_follow followed piece listed inside

theorem isDirectory_iff {p : Path} :
    t.isDirectory p = true ↔
      ∃ location, t.locate p = .ok location ∧ t.entryAt location = some .directory := by
  unfold isDirectory entry?
  cases t.locate p with
  | error cause => simp
  | ok location => simp

theorem present_iff {p : Path} :
    t.present p = true ↔
      ∃ location, t.locate p = .ok location ∧ (t.entryAt location).isSome = true := by
  unfold present entry?
  cases t.locate p with
  | error cause => simp
  | ok location => simp

theorem present_of_isFile {path : Path} (file : t.isFile path = true) :
    t.present path = true := by
  unfold isFile at file
  unfold present
  cases found : t.entry? path with
  | some entry => rfl
  | none =>
      rw [found] at file
      cases file

/-- What is present under a name of a directory is reached from that directory. -/
theorem directory_of_present_child {d : Path} {name : String} (written : d.text ≠ "")
    (single : '/' ∉ name.toList) (present : t.present (d.child name) = true) :
    ∃ location place, t.locate d = .ok location ∧ t.entryAt location = some .directory ∧
      t.follow location [name] = .ok place ∧ t.locate (d.child name) = .ok place := by
  have relative := Path.isAbsolute_of_notMem single
  rcases present_iff.mp present with ⟨place, located, _⟩
  rcases follow_of_locate located with ⟨_, noNul, short, followed⟩
  have start : t.start (d.child name) = t.start d := by
    unfold FileTree.start
    rw [Path.isAbsolute_child written relative]
  rw [Path.pieces_child written relative, Text.pieces_of_notMem single, follow_append, start]
    at followed
  cases way : t.follow (t.start d) d.way with
  | error cause =>
      rw [way] at followed
      cases followed
  | ok location =>
      simp only [way] at followed
      have directory := directory_of_follow followed
      have own : t.follow (t.start d) (Text.pieces '/' d.text) = .ok location := by
        rcases Path.pieces_eq_way d with same | closed
        · rw [same, way]
        · rw [closed, follow_append]
          simp only [way]
          exact follow_idle directory rfl
      rcases Path.text_child d relative with ⟨between, _, text⟩
      rw [text] at noNul short
      have noNul' : d.text.toList.contains '\x00' = false := by
        rw [Bool.eq_false_iff] at noNul ⊢
        intro nul
        apply noNul
        rw [List.contains_iff_mem] at nul ⊢
        rw [String.toList_append]
        exact List.mem_append_left _ nul
      have short' : d.text.utf8ByteSize ≤ longestPath := by
        rw [String.utf8ByteSize_append] at short
        omega
      exact ⟨location, place, locate_of_follow written noNul' short' own, directory, followed,
        located⟩

theorem isDirectory_of_present_child {d : Path} {name : String} (written : d.text ≠ "")
    (single : '/' ∉ name.toList) (present : t.present (d.child name) = true) :
    t.isDirectory d = true := by
  rcases directory_of_present_child written single present with
    ⟨location, _, located, directory, _⟩
  exact isDirectory_iff.mpr ⟨location, located, directory⟩

/-! ## The names in a directory -/

theorem mem_keys_iff {location : Location} (below : location ≠ []) :
    location ∈ t.entries.keys ↔ (t.entryAt location).isSome = true := by
  rw [entryAt_of_ne_nil t below, Option.isSome_iff_exists]
  unfold OrderedMap.keys
  rw [List.mem_map]
  constructor
  · rintro ⟨⟨key, entry⟩, listed, same⟩
    cases same
    exact ⟨entry, (OrderedMap.find?_eq_some_iff t.entries).mpr listed⟩
  · rintro ⟨entry, found⟩
    exact ⟨_, (OrderedMap.find?_eq_some_iff t.entries).mp found, rfl⟩

/-- The ways below a location are those to what the tree has there. -/
theorem mem_below_iff {location : Location} {way : List String} :
    way ∈ t.below location ↔ way ≠ [] ∧ (t.entryAt (location ++ way)).isSome = true := by
  unfold below
  rw [List.mem_filterMap]
  constructor
  · rintro ⟨other, listed, deeper⟩
    split at deeper
    · rename_i below
      simp only [Bool.and_eq_true, List.isPrefixOf_iff_prefix, decide_eq_true_eq] at below
      rcases below with ⟨⟨rest, rfl⟩, longer⟩
      rw [List.drop_left] at deeper
      cases deeper
      have some : way ≠ [] := by
        rintro rfl
        simp at longer
      exact ⟨some, (mem_keys_iff (by simp [some])).mp listed⟩
    · cases deeper
  · rintro ⟨some, present⟩
    refine ⟨location ++ way, (mem_keys_iff (by simp [some])).mpr present, ?_⟩
    have longer : location.length < (location ++ way).length := by
      rw [List.length_append]
      exact Nat.lt_add_of_pos_right (List.length_pos_iff.mpr some)
    rw [if_pos]
    · rw [List.drop_left]
    · rw [Bool.and_eq_true, List.isPrefixOf_iff_prefix, decide_eq_true_eq]
      exact ⟨List.prefix_append _ _, longer⟩

theorem mem_names_iff {location : Location} {name : String} :
    name ∈ t.names location ↔ (t.entryAt (location ++ [name])).isSome = true := by
  unfold names
  rw [List.mem_filterMap]
  constructor
  · rintro ⟨way, listed, single⟩
    split at single
    · cases single
      exact (mem_below_iff.mp listed).2
    · cases single
  · intro present
    exact ⟨[name], mem_below_iff.mpr ⟨List.cons_ne_nil _ _, present⟩, rfl⟩

/-- The names in a directory are listed in order. -/
theorem sorted_names (t : FileTree) (location : Location) :
    (t.names location).Pairwise (fun a b => KeyOrder.before a b = true) := by
  have keys : t.entries.keys.Pairwise (fun a b => KeyOrder.before a b = true) := by
    unfold OrderedMap.keys
    rw [List.pairwise_map]
    exact t.entries.sorted
  unfold names below
  rw [List.pairwise_filterMap, List.pairwise_filterMap]
  refine keys.imp ?_
  intro one other ordered way below way' below' name single name' single'
  split at below
  · rename_i deeper
    split at below'
    · rename_i deeper'
      simp only [Bool.and_eq_true, List.isPrefixOf_iff_prefix] at deeper deeper'
      rcases deeper.1 with ⟨rest, rfl⟩
      rcases deeper'.1 with ⟨rest', rfl⟩
      rw [List.drop_left] at below below'
      cases below
      cases below'
      split at single
      · split at single'
        · cases single
          cases single'
          rw [← KeyOrder.beforeList_singleton, ← KeyOrder.beforeList_append location]
          exact ordered
        · cases single'
      · cases single
    · cases below'
  · cases below

/-! ## Trees that differ in the working directory -/

variable {u : FileTree}

theorem entryAt_congr (same : u.entries = t.entries) (location : Location) :
    u.entryAt location = t.entryAt location := by
  cases location with
  | nil => rfl
  | cons name rest => exact congrArg (OrderedMap.find? · (name :: rest)) same

theorem follow_congr (same : u.entries = t.entries) (location : Location)
    (segments : List String) : u.follow location segments = t.follow location segments := by
  induction segments generalizing location with
  | nil => rfl
  | cons segment rest inductionHypothesis =>
      simp only [follow, entryAt_congr same, inductionHypothesis]

/-- Only a relative path is followed from the working directory. -/
theorem locate_congr (same : u.entries = t.entries) {p : Path} (rooted : p.isAbsolute = true) :
    u.locate p = t.locate p := by
  unfold locate start
  simp only [rooted, if_true, follow_congr same]

theorem present_congr (same : u.entries = t.entries) {p : Path} (rooted : p.isAbsolute = true) :
    u.present p = t.present p := by
  unfold present entry?
  simp only [locate_congr same rooted, entryAt_congr same]

theorem readText_congr (same : u.entries = t.entries) {p : Path} (rooted : p.isAbsolute = true) :
    u.readText p = t.readText p := by
  unfold readText read
  simp only [locate_congr same rooted, entryAt_congr same]

/-- Only a file can be read. -/
theorem isFile_of_readText {p : Path} {text : String} (read : t.readText p = .ok text) :
    t.isFile p = true := by
  unfold readText FileTree.read at read
  unfold isFile entry?
  cases located : t.locate p with
  | error cause =>
      rw [located] at read
      cases read
  | ok location =>
      rw [located] at read
      simp only at read ⊢
      cases found : t.entryAt location with
      | none =>
          rw [found] at read
          cases read
      | some entry =>
          cases entry with
          | file content executable => rfl
          | directory =>
              rw [found] at read
              cases read

theorem present_of_readText {p : Path} {text : String} (read : t.readText p = .ok text) :
    t.present p = true :=
  present_of_isFile (isFile_of_readText read)

end FileTree
end HostLink
