import HostLink.Proofs.Glob.Escaped
import Mathlib.Data.List.Nodup

namespace HostLink

/-!
# The way of a search to an escaped directory

The search takes the components of an escaped directory one by one.  A component with a class in
it is looked for among the names that a directory lists, and any other is taken as it stands;
both lead on exactly if the name is there.  So what is found at the end depends on the end of
the way alone.

The search writes its way without a `.` in front, and with one slash where several follow each
other.  This does not change which directory is meant, except where slashes follow a `.` in
front at once, as in `.//a`: there the search takes the empty name from the working directory,
finds nothing under it and gives up.
-/

namespace Glob

/-! ## Searching name by name -/

/-- The names that a search still has before it when it stands at a directory.  An empty one
may not be the first to be taken from the working directory. -/
inductive Stand : Path → List String → Prop where
  | away {d : Path} {names : List String} :
      d.text ≠ "" → d.steps ≠ [.here] → Stand d names
  | home {names : List String} :
      (names.dropWhile (· == ".")).head? ≠ some "" → Stand ⟨"."⟩ names

section Searching

variable {t : FileTree} {d : Path} {name : String} {names : List String}

theorem entryPath_home (name : String) : entryPath ⟨"."⟩ name = ⟨name⟩ := rfl

theorem entryPath_away (elsewhere : d.steps ≠ [.here]) (name : String) :
    entryPath d name = d.child name :=
  if_neg elsewhere

theorem Stand.written (stand : Stand d names) : d.text ≠ "" := by
  cases stand with
  | away written _ => exact written
  | home _ => decide

theorem Stand.next (stand : Stand d (name :: names)) (single : '/' ∉ name.toList) :
    Stand (entryPath d name) names := by
  cases stand with
  | away written elsewhere =>
      rw [entryPath_away elsewhere]
      exact .away (Path.text_child_ne_empty written single)
        (steps_child_ne_here written single elsewhere)
  | home proper =>
      rw [entryPath_home]
      by_cases here : name = "."
      · subst here
        exact .home proper
      · have first : name ≠ "" := by
          rintro rfl
          exact proper rfl
        have moves : Path.isIdle name = false := by
          simp only [Path.isIdle, Bool.or_eq_false_iff, beq_eq_false_iff_ne]
          exact ⟨first, here⟩
        exact .away first (steps_ne_here single moves)

theorem Stand.walked (stand : Stand d names)
    (single : ∀ name ∈ names, '/' ∉ name.toList) : Stand (names.foldl entryPath d) [] := by
  induction names generalizing d with
  | nil => exact stand
  | cons name names inductionHypothesis =>
      exact inductionHypothesis (stand.next (single name List.mem_cons_self))
        (fun other listed => single other (List.mem_cons_of_mem _ listed))

/-- What is there under a name is reached from the directory where the search stands. -/
theorem Stand.reached (stand : Stand d (name :: names)) (single : '/' ∉ name.toList)
    (present : t.present (entryPath d name) = true) :
    ∃ location place, t.locate d = .ok location ∧ t.entryAt location = some .directory ∧
      t.follow location [name] = .ok place := by
  cases stand with
  | away written elsewhere =>
      rw [entryPath_away elsewhere] at present
      rcases FileTree.directory_of_present_child written single present with
        ⟨location, place, located, directory, followed, _⟩
      exact ⟨location, place, located, directory, followed⟩
  | home proper =>
      rw [entryPath_home] at present
      rcases FileTree.present_iff.mp present with ⟨place, located, _⟩
      rcases FileTree.locate_eq_ok_iff.mp located with ⟨_, _, followed⟩
      have start : t.start ⟨name⟩ = t.workDir := by
        unfold FileTree.start
        rw [Path.isAbsolute_of_notMem single]
        rfl
      rw [Text.pieces_of_notMem single, start] at followed
      have work := FileTree.directory_of_follow followed
      have still : t.follow (t.start ⟨"."⟩) (Text.pieces '/' ".") = .ok t.workDir :=
        FileTree.follow_idle work rfl
      exact ⟨t.workDir, place, FileTree.locate_eq_ok_iff.mpr ⟨by decide, by decide, still⟩, work,
        followed⟩

theorem Stand.directory (stand : Stand d (name :: names)) (single : '/' ∉ name.toList)
    (present : t.present (entryPath d name) = true) : t.isDirectory d = true := by
  rcases stand.reached single present with ⟨location, _, located, directory, _⟩
  exact FileTree.isDirectory_iff.mpr ⟨location, located, directory⟩

/-- A component for one name leads to what is there under this name. -/
theorem search_only (stand : Stand d (name :: names)) (single : '/' ∉ name.toList)
    (rest : List Component) (present : t.present (entryPath d name) = true) :
    search t false (only name :: rest) d = search t false rest (entryPath d name) := by
  have here := stand.directory single present
  rcases only_eq name with plain | ⟨wild, c, inside, special⟩
  · have leads : leadsOn t d name = true := by
      unfold leadsOn
      rw [here, present, ite_self]
    rw [plain, search, if_pos leads]
  · have named : Path.Step.ofSegment name = some (.name name) := by
      unfold Path.Step.ofSegment
      split
      · cases inside
      · simp at inside
        rw [inside] at special
        cases special
      · simp at inside
        rw [inside] at special
        cases special
      · rfl
    rcases stand.reached single present with ⟨location, place, located, directory, followed⟩
    have listed : name ∈ namesAt t d := by
      unfold namesAt
      rw [located]
      exact FileTree.mem_names_iff.mpr (FileTree.follow_name named followed).2
    have once : (namesAt t d).Nodup := (sorted_namesAt t d).imp KeyOrder.ne_of_before
    have fitting : (namesAt t d).filter
        (fun other => fits (name.toList.map escapedToken) other.toList) = [name] := by
      have same : (fun other : String => fits (name.toList.map escapedToken) other.toList) =
          (· == name) := by
        funext other
        rw [Bool.eq_iff_iff, fits_escapedToken_iff, beq_iff_eq, String.toList_inj]
      rw [same, List.filter_beq, List.count_eq_one_of_mem once listed]
      rfl
    rw [wild, search, if_pos here, specialNames_escaped inside special, fitting]
    simp

/-- A component for one name leads nowhere else. -/
theorem mem_search_of_only {path : Path} {rest : List Component}
    (found : path ∈ search t false (only name :: rest) d) :
    path ∈ search t false rest (entryPath d name) := by
  rcases only_eq name with plain | ⟨wild, c, inside, special⟩
  · rw [plain, search] at found
    split at found
    · exact found
    · cases found
  · rw [wild, search] at found
    split at found
    · rw [specialNames_escaped inside special, List.flatMap_nil, List.nil_append,
        List.mem_flatMap] at found
      rcases found with ⟨other, listed, found⟩
      rw [List.mem_filter, fits_escapedToken_iff, String.toList_inj] at listed
      rw [listed.2] at found
      exact found
    · cases found

theorem isDirectory_of_walked (stand : Stand d names) (single : ∀ name ∈ names, '/' ∉ name.toList)
    (ends : t.isDirectory (names.foldl entryPath d) = true) : t.isDirectory d = true := by
  induction names generalizing d with
  | nil => exact ends
  | cons name names inductionHypothesis =>
      have first := single name List.mem_cons_self
      have later := inductionHypothesis (stand.next first)
        (fun other listed => single other (List.mem_cons_of_mem _ listed)) ends
      exact stand.directory first (t.present_of_isDirectory later)

/-- Components for one name each lead to the end of the way, which decides what is found. -/
theorem search_walked (stand : Stand d names) (single : ∀ name ∈ names, '/' ∉ name.toList)
    (tokens : List Token) :
    search t false (names.map only ++ [.wild tokens]) d =
      search t false [.wild tokens] (names.foldl entryPath d) := by
  cases ends : t.isDirectory (names.foldl entryPath d) with
  | true =>
      -- The directory at the end is there, so every directory on the way to it is.
      induction names generalizing d with
      | nil => rfl
      | cons name names inductionHypothesis =>
          have first := single name List.mem_cons_self
          have others : ∀ other ∈ names, '/' ∉ other.toList :=
            fun other listed => single other (List.mem_cons_of_mem _ listed)
          have next := isDirectory_of_walked (stand.next first) others ends
          rw [List.map_cons, List.cons_append,
            search_only stand first _ (t.present_of_isDirectory next)]
          exact inductionHypothesis (stand.next first) others ends
  | false =>
      have nothing : search t false [.wild tokens] (names.foldl entryPath d) = [] := by
        rw [search, if_neg]
        rw [ends]
        exact Bool.false_ne_true
      rw [nothing, List.eq_nil_iff_forall_not_mem]
      intro path found
      suffices path ∈ search t false [.wild tokens] (names.foldl entryPath d) by
        rw [nothing] at this
        cases this
      clear nothing ends stand single
      induction names generalizing d with
      | nil => exact found
      | cons name names inductionHypothesis =>
          exact inductionHypothesis (mem_search_of_only found)

/-- From the working directory an empty name leads nowhere. -/
theorem search_lost (lost : (names.dropWhile (· == ".")).head? = some "")
    (rest : List Component) : search t false (names.map only ++ rest) ⟨"."⟩ = [] := by
  induction names with
  | nil => cases lost
  | cons name names inductionHypothesis =>
      rw [List.map_cons, List.cons_append, List.eq_nil_iff_forall_not_mem]
      intro path found
      by_cases here : name = "."
      · subst here
        have later := mem_search_of_only found
        rw [entryPath_home, inductionHypothesis lost] at later
        cases later
      · have vacant : name = "" := by
          rw [List.dropWhile_cons, if_neg (by simpa using here)] at lost
          exact Option.some.inj lost
        subst vacant
        have absent : leadsOn t ⟨"."⟩ "" = false := rfl
        change path ∈ search t false (.plain "" :: _) ⟨"."⟩ at found
        rw [search, absent] at found
        cases found

end Searching

/-! ## The way to a directory -/

/-- Where the search for a path starts. -/
def origin (d : Path) : Path :=
  if d.isAbsolute then ⟨"/"⟩ else ⟨"."⟩

/-- The names that the search takes from there one by one. -/
def route (d : Path) : List String :=
  if d.isAbsolute then (Text.pieces '/' d.text).tail else Text.pieces '/' d.text

/-- A directory as the search writes it. -/
def walk (d : Path) : Path :=
  (route d).foldl entryPath (origin d)

/-- Whether the search for a directory comes to an empty name while it still stands in the
working directory. -/
def loses (d : Path) : Bool :=
  !d.isAbsolute && ((route d).dropWhile (· == ".")).head? == some ""

/-- The names that a search behind an escaped directory comes to see. -/
def seen (t : FileTree) (d : Path) : List String :=
  if loses d then [] else namesAt t (walk d)

section Route

variable {d : Path}

theorem stand_origin (finds : loses d = false) : Stand (origin d) (route d) := by
  unfold loses at finds
  unfold origin
  cases start : d.isAbsolute with
  | true => exact .away (by decide) (by decide)
  | false =>
      rw [start] at finds
      simp only [Bool.not_false, Bool.true_and, beq_eq_false_iff_ne] at finds
      exact .home finds

theorem single_of_mem_route {name : String} (listed : name ∈ route d) : '/' ∉ name.toList := by
  unfold route at listed
  split at listed
  · exact Text.notMem_of_mem_pieces (List.mem_of_mem_tail listed)
  · exact Text.notMem_of_mem_pieces listed

/-- The first piece of an absolute path is empty, and that of another one is not. -/
theorem pieces_eq_route (written : d.text ≠ "") :
    (d.isAbsolute = true ∧ Text.pieces '/' d.text = "" :: route d ∧ route d ≠ []) ∨
      (d.isAbsolute = false ∧ Text.pieces '/' d.text = route d ∧ (route d).head? ≠ some "") := by
  have first : ∃ c rest, d.text.toList = c :: rest := by
    cases characters : d.text.toList with
    | nil => exact absurd (String.toList_eq_nil_iff.mp characters) written
    | cons c rest => exact ⟨c, rest, rfl⟩
  rcases first with ⟨c, rest, characters⟩
  have cut : Text.pieces '/' d.text = (Text.piecesOf '/' (c :: rest)).map String.ofList := by
    unfold Text.pieces
    rw [characters]
  have absolute : d.isAbsolute = (c == '/') := by
    unfold Path.isAbsolute
    rw [characters]
    rfl
  rw [Text.piecesOf] at cut
  by_cases slash : c = '/'
  · left
    rw [if_pos slash] at cut
    have starts : d.isAbsolute = true := by
      rw [absolute, slash]
      rfl
    refine ⟨starts, ?_⟩
    unfold route
    rw [if_pos starts, cut]
    refine ⟨rfl, ?_⟩
    simpa using Text.piecesOf_ne_nil '/' rest
  · right
    rw [if_neg slash] at cut
    have starts : d.isAbsolute = false := by
      rw [absolute, beq_eq_false_iff_ne]
      exact slash
    refine ⟨starts, ?_⟩
    unfold route
    rw [starts]
    refine ⟨rfl, ?_⟩
    simp only [Bool.false_eq_true, if_false]
    rw [cut]
    split
    · simp
    · simp

end Route

/-! ## The directory that is meant -/

section Meant

variable {t : FileTree} {d : Path} {names : List String}

/-- The end of the way is followed as the directory and the names behind it would be. -/
theorem follow_walked (stand : Stand d names) (single : ∀ name ∈ names, '/' ∉ name.toList) :
    t.start (names.foldl entryPath d) = t.start d ∧
      t.follow (t.start d) (Text.pieces '/' (names.foldl entryPath d).text) =
        t.follow (t.start d) (Text.pieces '/' d.text ++ names) := by
  induction names generalizing d with
  | nil => exact ⟨rfl, by rw [List.append_nil]; rfl⟩
  | cons name names inductionHypothesis =>
      have first := single name List.mem_cons_self
      have relative := Path.isAbsolute_of_notMem first
      rcases inductionHypothesis (stand.next first)
        (fun other listed => single other (List.mem_cons_of_mem _ listed)) with ⟨start, followed⟩
      have next : t.start (entryPath d name) = t.start d ∧
          t.follow (t.start d) (Text.pieces '/' (entryPath d name).text ++ names) =
            t.follow (t.start d) (Text.pieces '/' d.text ++ name :: names) := by
        cases stand with
        | away written elsewhere =>
            rw [entryPath_away elsewhere, Path.pieces_child written relative,
              Text.pieces_of_notMem first, List.append_assoc]
            refine ⟨by unfold FileTree.start; rw [Path.isAbsolute_child written relative], ?_⟩
            rcases Path.pieces_eq_way d with same | closed
            · rw [same]
              rfl
            · rw [closed, List.append_assoc, FileTree.follow_append, FileTree.follow_append]
              split
              · exact (FileTree.follow_idle_cons _ names rfl).symm
              · rfl
        | home proper =>
            rw [entryPath_home, Text.pieces_of_notMem first]
            refine ⟨by unfold FileTree.start; rw [relative]; rfl, ?_⟩
            exact (FileTree.follow_idle_cons _ names rfl).symm
      rw [List.foldl_cons, start, next.1]
      rw [next.1, next.2] at followed
      exact ⟨rfl, followed⟩

theorem utf8ByteSize_entryPath (d : Path) {name : String} (single : '/' ∉ name.toList) :
    (entryPath d name).text.utf8ByteSize ≤ d.text.utf8ByteSize + ("/" ++ name).utf8ByteSize := by
  have slash : "/".utf8ByteSize = 1 := rfl
  rw [String.utf8ByteSize_append, slash]
  unfold entryPath
  split
  · simp only
    omega
  · rcases Path.text_child d (Path.isAbsolute_of_notMem single) with ⟨between, slash, text⟩
    have least : between.utf8ByteSize ≤ 1 := by
      rcases slash with rfl | rfl <;> decide
    rw [text, String.utf8ByteSize_append, String.utf8ByteSize_append]
    omega

theorem utf8ByteSize_walked (d : Path) (single : ∀ name ∈ names, '/' ∉ name.toList) :
    (names.foldl entryPath d).text.utf8ByteSize ≤
      d.text.utf8ByteSize + (String.join (names.map ("/" ++ ·))).utf8ByteSize := by
  induction names generalizing d with
  | nil => exact Nat.le_refl _
  | cons name names inductionHypothesis =>
      have later := inductionHypothesis (entryPath d name)
        (fun other listed => single other (List.mem_cons_of_mem _ listed))
      have own := utf8ByteSize_entryPath d (single name List.mem_cons_self)
      rw [List.foldl_cons, List.map_cons, String.join_cons, String.utf8ByteSize_append]
      omega

/-- The search writes a directory no longer than it was written. -/
theorem utf8ByteSize_walk (written : d.text ≠ "") :
    (walk d).text.utf8ByteSize ≤ d.text.utf8ByteSize := by
  have whole : d.text.utf8ByteSize = (Text.joined "/" (Text.pieces '/' d.text)).utf8ByteSize :=
    congrArg String.utf8ByteSize (Text.parts_iff.mpr rfl).whole
  have separate : ∀ name ∈ route d, '/' ∉ name.toList := fun name => single_of_mem_route
  have some : route d ≠ [] := by
    rcases pieces_eq_route written with ⟨_, _, some⟩ | ⟨_, pieces, _⟩
    · exact some
    · rw [← pieces]
      exact Text.pieces_ne_nil _ _
  rcases List.exists_cons_of_ne_nil some with ⟨first, others, names⟩
  -- The first name replaces the `.` or stands behind the slash where the search starts.
  have entry : (entryPath (origin d) first).text.utf8ByteSize +
      (String.join (others.map ("/" ++ ·))).utf8ByteSize = d.text.utf8ByteSize := by
    unfold origin
    rcases pieces_eq_route written with ⟨starts, pieces, _⟩ | ⟨starts, pieces, _⟩
    · have elsewhere : (⟨"/"⟩ : Path).steps ≠ [.here] := by decide
      have single := separate first (by rw [names]; exact List.mem_cons_self)
      have root : (⟨"/"⟩ : Path).child first = ⟨"/" ++ first⟩ := by
        unfold Path.child Path.join
        rw [Path.isAbsolute_of_notMem single]
        rfl
      rw [starts, if_pos rfl, entryPath_away elsewhere, root, whole, pieces, names,
        Text.joined_cons, String.empty_append, List.map_cons, String.join_cons,
        String.utf8ByteSize_append (t := String.join _)]
    · rw [starts, if_neg Bool.false_ne_true, entryPath_home, whole, pieces, names,
        Text.joined_cons, String.utf8ByteSize_append]
  have bound := utf8ByteSize_walked (entryPath (origin d) first)
    (fun name listed => separate name (by rw [names]; exact List.mem_cons_of_mem _ listed))
  unfold walk
  rw [names, List.foldl_cons]
  omega

/-- A directory that the search does not lose is the one that it comes to. -/
theorem namesAt_walk (finds : loses d = false) (written : d.text ≠ "")
    (short : d.text.utf8ByteSize ≤ FileTree.longestPath) :
    namesAt t (walk d) = namesAt t d := by
  have stand := stand_origin finds
  have single : ∀ name ∈ route d, '/' ∉ name.toList := fun name => single_of_mem_route
  have written' : (walk d).text ≠ "" := (stand.walked single).written
  have short' : (walk d).text.utf8ByteSize ≤ FileTree.longestPath :=
    Nat.le_trans (utf8ByteSize_walk written) short
  rcases follow_walked (t := t) stand single with ⟨start, followed⟩
  have same : t.follow (t.start (walk d)) (Text.pieces '/' (walk d).text) =
      t.follow (t.start d) (Text.pieces '/' d.text) := by
    unfold walk
    rw [start, followed]
    unfold origin FileTree.start
    rcases pieces_eq_route written with ⟨starts, pieces, some⟩ | ⟨starts, pieces, _⟩
    · rw [starts, pieces, if_pos rfl]
      exact FileTree.follow_idle_cons [] (route d) rfl
    · rcases List.exists_cons_of_ne_nil (Text.pieces_ne_nil '/' d.text) with ⟨first, others, cut⟩
      rw [starts, if_neg Bool.false_ne_true, ← pieces, cut]
      exact FileTree.follow_idle_cons t.workDir others rfl
  have located : ∀ location, t.locate (walk d) = .ok location ↔ t.locate d = .ok location := by
    intro location
    rw [FileTree.locate_eq_ok_iff, FileTree.locate_eq_ok_iff, same]
    simp only [written', short', written, short, ne_eq, not_false_eq_true, true_and]
  unfold namesAt
  cases own : t.locate d with
  | ok location => rw [(located location).mpr own]
  | error cause =>
      cases other : t.locate (walk d) with
      | ok location =>
          rw [(located location).mp other] at own
          cases own
      | error cause => rfl

/-- What the search comes to see is what the directory holds. -/
theorem seen_eq (finds : loses d = false) (written : d.text ≠ "")
    (short : d.text.utf8ByteSize ≤ FileTree.longestPath) : seen t d = namesAt t d := by
  unfold seen
  rw [finds, if_neg Bool.false_ne_true, namesAt_walk finds written short]

end Meant

end Glob
end HostLink
