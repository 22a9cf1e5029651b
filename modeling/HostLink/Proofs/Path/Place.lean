import HostLink.Proofs.FileTree
import HostLink.Proofs.Path.Absolute

namespace HostLink

/-!
# Where settled paths lead

The moves of a path lead to a place, which is worked out on a stack of names and without a look
at any directory.  Whatever a path denotes in a tree is at its place.

A path that is settled leads to the place of the path as it was written, as long as it climbs no
more than one level above where it starts; an absolute path climbs none.  Beyond that it does
not.  A `..` that was kept is taken off the stack by the next one, so of the levels above the
start nothing but their parity is left, and `../..` settles to the empty path.
-/

namespace Path

/-- Where the moves of a path lead. -/
structure Place where
  /-- Whether it is counted from the root of all directories. -/
  rooted : Bool
  /-- How many levels above its start a relative path has come. -/
  above : Nat
  /-- The names that lead on from there, the last one on top. -/
  names : List String
  deriving DecidableEq

/-- The place after one more move.  Nothing lies above the root of all directories. -/
def Place.move (place : Place) : Step → Place
  | .root => ⟨true, 0, []⟩
  | .here => place
  | .up =>
      match place.names with
      | _ :: names => { place with names := names }
      | [] => if place.rooted then place else { place with above := place.above + 1 }
  | .name name => { place with names := name :: place.names }

/-- The place to which a path leads from its start. -/
def place (p : Path) : Place :=
  p.steps.foldl Place.move ⟨false, 0, []⟩

theorem Place.moves_cons (place : Place) (segment : String) (rest : List String) :
    ((segment :: rest).filterMap Step.ofSegment).foldl move place =
      (rest.filterMap Step.ofSegment).foldl move
        ((Step.ofSegment segment).toList.foldl move place) := by
  cases moves : Step.ofSegment segment with
  | none => rw [List.filterMap_cons_none moves]; rfl
  | some s => rw [List.filterMap_cons_some moves]; rfl

/-! ## The moves of any path -/

theorem inner_of_mem_segments {p : Path} {s : Step}
    (walked : s ∈ (Text.pieces '/' p.text).filterMap Step.ofSegment) : s.Inner := by
  rcases List.mem_filterMap.mp walked with ⟨segment, listed, moves⟩
  exact Step.inner_of_ofSegment (Text.notMem_of_mem_pieces listed) moves

/-- Only the first move of a path may be to the root or to where it stands. -/
theorem exists_steps_eq (p : Path) :
    ∃ moves, (p.steps = .root :: moves ∨ p.steps = .here :: moves ∨ p.steps = moves) ∧
      ∀ s ∈ moves, s.Inner := by
  by_cases written : p.text = ""
  · refine ⟨[], Or.inr (Or.inr ?_), nofun⟩
    unfold steps
    rw [written]
    rfl
  rcases List.exists_cons_of_ne_nil (Text.pieces_ne_nil '/' p.text) with ⟨first, others, cut⟩
  have inner : ∀ s ∈ (first :: others).filterMap Step.ofSegment, s.Inner := by
    rw [← cut]
    exact fun _ walked => inner_of_mem_segments walked
  rw [steps_eq written cut]
  unfold opening
  split
  · exact ⟨_, Or.inl rfl, inner⟩
  · exact ⟨_, Or.inr (Or.inl rfl), inner⟩
  · refine ⟨_, Or.inr (Or.inr rfl), ?_⟩
    cases moves : Step.ofSegment first with
    | none =>
        rw [List.filterMap_cons_none moves] at inner
        exact inner
    | some s =>
        rw [List.filterMap_cons_some moves] at inner
        exact inner

/-- Every move of a relative way is written as a segment of its own. -/
theorem pieces_ofSteps_of_inner {moves : List Step} (some : moves ≠ [])
    (inner : ∀ s ∈ moves, s.Inner) :
    Text.pieces '/' (ofSteps moves).text = moves.map Step.text := by
  refine Text.parts_iff.mp ⟨?_, by simpa using some, ?_⟩
  · unfold ofSteps
    split
    · exact absurd rfl (inner .root List.mem_cons_self).ne_root
    · rfl
  · intro part listed
    rcases List.mem_map.mp listed with ⟨other, member, same⟩
    rw [← same]
    exact (inner other member).single

/-- A relative way of moves is read back from its text. -/
theorem steps_ofSteps_of_inner {moves : List Step} (inner : ∀ s ∈ moves, s.Inner) :
    (ofSteps moves).steps = moves := by
  cases moves with
  | nil => rfl
  | cons s rest =>
      have first : s.Inner := inner s List.mem_cons_self
      have cut := pieces_ofSteps_of_inner (List.cons_ne_nil s rest) inner
      have written : (ofSteps (s :: rest)).text ≠ "" := by
        intro vacant
        rw [vacant] at cut
        exact first.named (List.cons.inj cut).1.symm
      have opened : opening s.text = [s] := by
        unfold opening
        split
        case h_1 same => exact absurd same first.named
        case h_2 same =>
          have moves := first.segment
          rw [same] at moves
          cases moves
        case h_3 =>
          rw [first.segment]
          rfl
      rw [steps_eq written cut, opened, filterMap_ofSegment_text
        (fun other listed => inner other (List.mem_cons_of_mem _ listed))]
      rfl

/-! ## Settling with the place in view -/

/-- A stack of settled moves, last one on top, beside the place to which the moves led that were
settled.  Of the levels above the start, the stack remembers whether they are odd. -/
inductive Remembers : List Step → Place → Prop
  | root : Remembers [.root] ⟨true, 0, []⟩
  /-- An attempt to leave the root of all directories. -/
  | beyond : Remembers [.up, .root] ⟨true, 0, []⟩
  | even {above : Nat} (paired : above % 2 = 0) : Remembers [] ⟨false, above, []⟩
  | odd {above : Nat} (single : above % 2 = 1) : Remembers [.up] ⟨false, above, []⟩
  | name {name : String} {stack : List Step} {place : Place} (inner : (Step.name name).Inner)
      (below : Remembers stack place) :
      Remembers (.name name :: stack) { place with names := name :: place.names }

theorem Remembers.settle_inner {stack : List Step} {place : Place}
    (remembers : Remembers stack place) {s : Step} (inner : s.Inner) :
    Remembers (settle stack s) (place.move s) := by
  cases s with
  | root => exact absurd rfl inner.ne_root
  | here => exact absurd rfl inner.ne_here
  | up =>
      cases remembers with
      | root => exact .beyond
      | beyond => exact .root
      | even paired => exact .odd (by simp only; omega)
      | odd single => exact .even (by simp only; omega)
      | name _ below => exact below
  | name text => exact .name inner remembers

theorem Remembers.settle_all {stack moves : List Step} {place : Place}
    (remembers : Remembers stack place) (inner : ∀ s ∈ moves, s.Inner) :
    Remembers (moves.foldl settle stack) (moves.foldl Place.move place) := by
  induction moves generalizing stack place with
  | nil => exact remembers
  | cons s rest inductionHypothesis =>
      apply inductionHypothesis (remembers.settle_inner (inner s List.mem_cons_self))
      intro other listed
      exact inner other (List.mem_cons_of_mem _ listed)

/-- What is left of the moves of a path remembers where the path leads. -/
theorem remembers_place (p : Path) : Remembers (p.steps.foldl settle []) p.place := by
  rcases exists_steps_eq p with ⟨moves, steps, inner⟩
  unfold place
  rcases steps with rooted | here | relative
  · rw [rooted]
    exact Remembers.root.settle_all inner
  · rw [here, List.foldl_cons, List.foldl_cons]
    exact Remembers.settle_all (.even rfl) inner
  · rw [relative]
    exact Remembers.settle_all (.even rfl) inner

/-- The moves of a stack lead where they did before, up to the parity of the levels above. -/
theorem Remembers.place_reverse {stack : List Step} {place : Place}
    (remembers : Remembers stack place) :
    stack.reverse.foldl Place.move ⟨false, 0, []⟩ = { place with above := place.above % 2 } := by
  induction remembers with
  | root => rfl
  | beyond => rfl
  | even paired =>
      rw [paired]
      rfl
  | odd single =>
      rw [single]
      rfl
  | name inner below inductionHypothesis =>
      rw [List.reverse_cons, List.foldl_append, inductionHypothesis]
      rfl

/-- In their order, the moves of a stack start at the root or nowhere, and the others do not. -/
theorem Remembers.reverse_eq {stack : List Step} {place : Place}
    (remembers : Remembers stack place) :
    ∃ moves, stack.reverse = (if place.rooted then .root :: moves else moves) ∧
      ∀ s ∈ moves, s.Inner := by
  have up : ∀ s ∈ [Step.up], s.Inner := by
    intro s listed
    rw [List.mem_singleton.mp listed]
    exact Step.inner_up
  induction remembers with
  | root => exact ⟨[], rfl, nofun⟩
  | beyond => exact ⟨[.up], rfl, up⟩
  | even _ => exact ⟨[], rfl, nofun⟩
  | odd _ => exact ⟨[.up], rfl, up⟩
  | @name name stack place inner below inductionHypothesis =>
      rcases inductionHypothesis with ⟨moves, same, others⟩
      refine ⟨moves ++ [.name name], ?_, ?_⟩
      · rw [List.reverse_cons, same]
        cases place.rooted <;> rfl
      · intro s listed
        rcases List.mem_append.mp listed with former | added
        · exact others s former
        · rw [List.mem_singleton.mp added]
          exact inner

theorem Remembers.steps_ofSteps {stack : List Step} {place : Place}
    (remembers : Remembers stack place) : (ofSteps stack.reverse).steps = stack.reverse := by
  rcases remembers.reverse_eq with ⟨moves, same, inner⟩
  rw [same]
  cases place.rooted with
  | true => exact steps_ofSteps_root inner
  | false => exact steps_ofSteps_of_inner inner

theorem steps_absolute (root path : Path) :
    (absolute root path).steps = settled (root.join path).steps := by
  unfold absolute settled
  exact (remembers_place (root.join path)).steps_ofSteps

/-- Settling forgets the levels above the start of a path two by two. -/
theorem place_absolute (root path : Path) :
    (absolute root path).place =
      { (root.join path).place with above := (root.join path).place.above % 2 } := by
  have walked : (absolute root path).place =
      (absolute root path).steps.foldl Place.move ⟨false, 0, []⟩ := rfl
  rw [walked, steps_absolute]
  exact (remembers_place (root.join path)).place_reverse

theorem Remembers.above_of_rooted {stack : List Step} {place : Place}
    (remembers : Remembers stack place) (rooted : place.rooted = true) : place.above = 0 := by
  induction remembers with
  | root => rfl
  | beyond => rfl
  | even _ => cases rooted
  | odd _ => cases rooted
  | name _ _ inductionHypothesis => exact inductionHypothesis rooted

theorem Place.rooted_move {s : Step} (inner : s.Inner) (place : Place) :
    (place.move s).rooted = place.rooted := by
  cases s with
  | root => exact absurd rfl inner.ne_root
  | here | name => rfl
  | up =>
      rcases place with ⟨rooted, above, names⟩
      cases names with
      | cons name rest => rfl
      | nil => cases rooted <;> rfl

theorem Place.rooted_moves {moves : List Step} (inner : ∀ s ∈ moves, s.Inner) (place : Place) :
    (moves.foldl Place.move place).rooted = place.rooted := by
  induction moves generalizing place with
  | nil => rfl
  | cons s rest inductionHypothesis =>
      rw [List.foldl_cons, inductionHypothesis
        (fun other listed => inner other (List.mem_cons_of_mem _ listed)),
        Place.rooted_move (inner s List.mem_cons_self)]

/-- Whether a path starts at the root can be told from its place. -/
theorem rooted_place (p : Path) : p.place.rooted = p.isAbsolute := by
  have relative : ∀ moves, (p.steps = .here :: moves ∨ p.steps = moves) →
      (∀ s ∈ moves, s.Inner) → p.isAbsolute = false := by
    intro moves steps inner
    apply Bool.eq_false_iff.mpr
    intro rooted
    rcases steps_of_isAbsolute rooted with ⟨others, begins, _⟩
    rcases steps with here | same
    · rw [begins] at here
      cases here
    · have listed : Step.root ∈ moves := by
        rw [← same, begins]
        exact List.mem_cons_self
      exact (inner .root listed).ne_root rfl
  rcases exists_steps_eq p with ⟨moves, rooted | here | same, inner⟩
  · rw [isAbsolute_of_steps rooted]
    unfold place
    rw [rooted]
    exact Place.rooted_moves inner _
  · rw [relative moves (Or.inl here) inner]
    unfold place
    rw [here]
    exact Place.rooted_moves inner _
  · rw [relative moves (Or.inr same) inner]
    unfold place
    rw [same]
    exact Place.rooted_moves inner _

/-- With it known where a path starts, its first segment is read like the others. -/
theorem place_eq_of_segments (p : Path) :
    p.place = ((Text.pieces '/' p.text).filterMap Step.ofSegment).foldl Place.move
      ⟨p.isAbsolute, 0, []⟩ := by
  by_cases written : p.text = ""
  · have vacant : p = ⟨""⟩ := congrArg Path.mk written
    rw [vacant]
    rfl
  rcases List.exists_cons_of_ne_nil (Text.pieces_ne_nil '/' p.text) with ⟨first, others, cut⟩
  have opened : (opening first).foldl Place.move ⟨false, 0, []⟩ =
      (Step.ofSegment first).toList.foldl Place.move ⟨first == "", 0, []⟩ := by
    unfold opening
    split
    · rfl
    · rfl
    · rename_i notEmpty _
      rw [beq_eq_false_iff_ne.mpr notEmpty]
  have walked : p.place = ((Text.pieces '/' p.text).filterMap Step.ofSegment).foldl Place.move
      ⟨first == "", 0, []⟩ := by
    unfold place
    rw [steps_eq written cut, cut, List.foldl_append, opened, Place.moves_cons]
  have rooted : p.isAbsolute = (first == "") := by
    rw [← rooted_place, walked]
    exact Place.rooted_moves (fun _ => inner_of_mem_segments) _
  rw [rooted]
  exact walked

/-! ## How long a settled path is -/

/-- The bytes of texts that are written with a slash behind each. -/
def spread : List String → Nat
  | [] => 0
  | text :: rest => text.utf8ByteSize + 1 + spread rest

theorem spread_append (front rest : List String) :
    spread (front ++ rest) = spread front + spread rest := by
  induction front with
  | nil => rw [List.nil_append, spread, Nat.zero_add]
  | cons text front inductionHypothesis =>
      simp only [List.cons_append, spread, inductionHypothesis]
      omega

theorem spread_reverse (texts : List String) : spread texts.reverse = spread texts := by
  induction texts with
  | nil => rfl
  | cons text rest inductionHypothesis =>
      simp only [List.reverse_cons, spread_append, spread, inductionHypothesis]
      omega

theorem spread_joined {texts : List String} (some : texts ≠ []) :
    (Text.joined "/" texts).utf8ByteSize + 1 = spread texts := by
  cases texts with
  | nil => exact absurd rfl some
  | cons first rest =>
      have others : (String.join (rest.map ("/" ++ ·))).utf8ByteSize = spread rest := by
        induction rest with
        | nil => rfl
        | cons second rest inductionHypothesis =>
            have slash : "/".utf8ByteSize = 1 := rfl
            rw [List.map_cons, String.join_cons, String.utf8ByteSize_append,
              inductionHypothesis (List.cons_ne_nil _ _), String.utf8ByteSize_append, slash]
            simp only [spread]
            omega
      rw [Text.joined_cons, String.utf8ByteSize_append, others]
      simp only [spread]
      omega

/-- A move is put on the stack, or something is taken from it, or nothing happens. -/
theorem spread_settle (stack : List Step) (s : Step) :
    spread ((settle stack s).map Step.text) ≤ spread (stack.map Step.text) + spread [s.text] := by
  unfold settle
  split
  · exact Nat.le_add_right _ _
  · split
    · exact Nat.le_refl _
    · simp [spread, Step.text, Nat.add_comm]
    · simp only [spread, List.map_cons]
      omega
  · simp only [spread, List.map_cons]
    omega

theorem spread_settle_all (stack moves : List Step) :
    spread ((moves.foldl settle stack).map Step.text) ≤
      spread (stack.map Step.text) + spread (moves.map Step.text) := by
  induction moves generalizing stack with
  | nil => exact Nat.le_add_right _ _
  | cons s rest inductionHypothesis =>
      have first := spread_settle stack s
      have others := inductionHypothesis (settle stack s)
      simp only [spread, List.foldl_cons, List.map_cons] at first others ⊢
      omega

theorem spread_filterMap (segments : List String) :
    spread ((segments.filterMap Step.ofSegment).map Step.text) ≤ spread segments := by
  induction segments with
  | nil => exact Nat.le_refl _
  | cons segment rest inductionHypothesis =>
      cases moves : Step.ofSegment segment with
      | none =>
          rw [List.filterMap_cons_none moves]
          simp only [spread] at inductionHypothesis ⊢
          omega
      | some s =>
          rw [List.filterMap_cons_some moves, List.map_cons, Step.text_ofSegment moves]
          simp only [spread] at inductionHypothesis ⊢
          omega

theorem spread_steps {p : Path} (written : p.text ≠ "") :
    spread (p.steps.map Step.text) ≤ p.text.utf8ByteSize + 1 := by
  rcases List.exists_cons_of_ne_nil (Text.pieces_ne_nil '/' p.text) with ⟨first, others, cut⟩
  have whole : p.text.utf8ByteSize + 1 = spread (first :: others) := by
    rw [← cut, ← spread_joined (Text.pieces_ne_nil '/' p.text)]
    exact congrArg (fun text => String.utf8ByteSize text + 1) (Text.parts_iff.mpr rfl).whole
  have front : spread ((opening first).map Step.text) ≤ spread [first] := by
    unfold opening
    split
    · exact Nat.le_refl _
    · exact Nat.le_refl _
    · have kept := spread_filterMap [first]
      cases moves : Step.ofSegment first with
      | none => exact Nat.zero_le _
      | some s =>
          rw [List.filterMap_cons_some moves] at kept
          exact kept
  have behind := spread_filterMap others
  rw [steps_eq written cut, whole]
  simp only [spread, spread_append, List.map_append] at front behind ⊢
  omega

/-- Settling makes no path longer. -/
theorem utf8ByteSize_absolute {root path : Path} (written : (root.join path).text ≠ "") :
    (absolute root path).text.utf8ByteSize ≤ (root.join path).text.utf8ByteSize := by
  have least : 1 ≤ (root.join path).text.utf8ByteSize := by
    rw [Nat.one_le_iff_ne_zero, Ne, String.utf8ByteSize_eq_zero_iff]
    exact written
  have fewer : spread ((settled (root.join path).steps).map Step.text) ≤
      (root.join path).text.utf8ByteSize + 1 := by
    have kept := spread_settle_all [] (root.join path).steps
    have whole := spread_steps written
    rw [List.map_nil, spread, Nat.zero_add] at kept
    rw [settled, List.map_reverse, spread_reverse]
    exact Nat.le_trans kept whole
  unfold absolute ofSteps
  split
  · exact least
  · by_cases some : settled (root.join path).steps = []
    · rw [some]
      exact Nat.zero_le _
    · have joined := @spread_joined ((settled (root.join path).steps).map Step.text)
        (by simpa using some)
      simp only
      omega

end Path

/-! ## Places in a tree -/

namespace FileTree

open HostLink.Path (Place Step)

variable {t : FileTree} {place : Place}

/-- The location of a place, if paths start from the working directory. -/
def locationOf (t : FileTree) (place : Place) : Location :=
  (if place.rooted then [] else t.workDir.take (t.workDir.length - place.above)) ++
    place.names.reverse

theorem locationOf_name (t : FileTree) (place : Place) (name : String) :
    t.locationOf (place.move (.name name)) = t.locationOf place ++ [name] := by
  unfold locationOf Place.move
  simp only [List.reverse_cons, List.append_assoc]

theorem locationOf_up (t : FileTree) (place : Place) :
    t.locationOf (place.move .up) = (t.locationOf place).dropLast := by
  unfold locationOf Place.move
  cases names : place.names with
  | cons name rest =>
      simp only [List.reverse_cons, ← List.append_assoc, List.dropLast_concat]
  | nil =>
      cases rooted : place.rooted with
      | true => simp [rooted, names]
      | false =>
          simp only [Bool.false_eq_true, if_false, List.reverse_nil, List.append_nil,
            List.dropLast_eq_take, List.length_take, List.take_take]
          congr 1
          omega

/-- Whatever is followed, its segments lead to their place. -/
theorem eq_locationOf_of_follow {segments : List String} {location : Location}
    (followed : t.follow (t.locationOf place) segments = .ok location) :
    location = t.locationOf ((segments.filterMap Step.ofSegment).foldl Place.move place) := by
  induction segments generalizing place with
  | nil => exact (Except.ok.inj followed).symm
  | cons segment rest inductionHypothesis =>
      rcases follow_cons_eq_ok_iff.mp followed with ⟨next, takes, others⟩
      cases takes with
      | idle _ still =>
          have none : Step.ofSegment segment = none := by
            rcases Path.isIdle_iff.mp still with rfl | rfl <;> rfl
          rw [List.filterMap_cons_none none]
          exact inductionHypothesis others
      | up _ =>
          rw [← locationOf_up] at others
          exact inductionHypothesis others
      | name present =>
          rw [List.filterMap_cons_some (ofSegment_of_entryAt present), List.foldl_cons]
          rw [← locationOf_name] at others
          exact inductionHypothesis others

theorem start_eq_locationOf (t : FileTree) (p : Path) :
    t.start p = t.locationOf ⟨p.isAbsolute, 0, []⟩ := by
  unfold start locationOf
  cases p.isAbsolute <;> simp

/-- A path that denotes something denotes what is at its place. -/
theorem eq_locationOf_of_locate {p : Path} {location : Location}
    (located : t.locate p = .ok location) : location = t.locationOf p.place := by
  rcases locate_eq_ok_iff.mp located with ⟨_, _, followed⟩
  rw [start_eq_locationOf] at followed
  rw [Path.place_eq_of_segments]
  exact eq_locationOf_of_follow followed

/-- Settled moves can be followed to their place if something is there. -/
theorem follow_of_remembers {stack : List Step} (remembers : Path.Remembers stack place)
    (near : place.above ≤ 1)
    (start : t.entryAt (t.locationOf ⟨place.rooted, 0, []⟩) = some .directory)
    (present : (t.entryAt (t.locationOf place)).isSome = true) :
    t.follow (t.locationOf ⟨place.rooted, 0, []⟩) (stack.reverse.map Step.text) =
      .ok (t.locationOf place) := by
  have root : t.entryAt [] = some .directory := rfl
  induction remembers with
  | root => exact follow_idle root rfl
  | beyond =>
      refine follow_cons_eq_ok_iff.mpr ⟨[], .idle root rfl, ?_⟩
      exact follow_cons_eq_ok_iff.mpr ⟨[], .up root, rfl⟩
  | @even above paired =>
      have none : above = 0 := by
        simp only at near
        omega
      rw [none]
      rfl
  | @odd above single =>
      have one : above = 1 := by
        simp only at near
        omega
      have next : t.locationOf ⟨false, 1, []⟩ = (t.locationOf ⟨false, 0, []⟩).dropLast :=
        locationOf_up t ⟨false, 0, []⟩
      rw [one, next]
      exact follow_cons_eq_ok_iff.mpr ⟨_, .up start, rfl⟩
  | @name name stack place inner below inductionHypothesis =>
      have longer : t.locationOf { place with names := name :: place.names } =
          t.locationOf place ++ [name] := locationOf_name t place name
      rw [longer] at present ⊢
      have before := inductionHypothesis near start (by rw [t.entryAt_parent present]; rfl)
      rw [List.reverse_cons, List.map_append, follow_append, before]
      exact follow_cons_eq_ok_iff.mpr ⟨_, .name present, rfl⟩

/-- The segments of a settled path lead where its moves do. -/
theorem follow_ofSteps {stack : List Step} (remembers : Path.Remembers stack place)
    (stacked : stack ≠ []) (location : Location) :
    t.follow location (Text.pieces '/' (Path.ofSteps stack.reverse).text) =
      t.follow location (stack.reverse.map Step.text) := by
  rcases remembers.reverse_eq with ⟨moves, same, inner⟩
  rw [same]
  cases rooted : place.rooted with
  | false =>
      rw [rooted] at same
      have walked : moves ≠ [] := by
        intro none
        rw [none] at same
        exact stacked (List.reverse_eq_nil_iff.mp same)
      exact congrArg (t.follow location) (Path.pieces_ofSteps_of_inner walked inner)
  | true =>
      cases moves with
      | nil => exact follow_idle_cons location [] rfl
      | cons s rest =>
          exact congrArg (t.follow location)
            (Path.pieces_ofSteps_root (List.cons_ne_nil s rest) inner)

/-- What a path denotes is denoted by the settled path as well, unless the path climbs further
than settling remembers, or leads back to the working directory and leaves no text. -/
theorem locate_absolute {root path : Path} {location : Location}
    (near : (root.join path).place.above ≤ 1) (named : (Path.absolute root path).text ≠ "")
    (located : t.locate (root.join path) = .ok location) :
    t.locate (Path.absolute root path) = .ok location := by
  rcases locate_eq_ok_iff.mp located with ⟨written, short, followed⟩
  have segmented := Text.pieces_ne_nil '/' (root.join path).text
  have present := present_of_follow segmented followed
  have remembers := Path.remembers_place (root.join path)
  have start : t.entryAt (t.start (root.join path)) = some .directory := by
    rcases List.exists_cons_of_ne_nil segmented with ⟨first, others, cut⟩
    rw [cut] at followed
    exact directory_of_follow followed
  have same : t.start (Path.absolute root path) = t.start (root.join path) := by
    rw [start_eq_locationOf, start_eq_locationOf, ← Path.rooted_place, ← Path.rooted_place,
      Path.place_absolute]
  have stacked : (root.join path).steps.foldl Path.settle [] ≠ [] := by
    intro none
    apply named
    unfold Path.absolute Path.settled
    rw [none]
    rfl
  refine locate_eq_ok_iff.mpr
    ⟨named, Nat.le_trans (Path.utf8ByteSize_absolute written) short, ?_⟩
  have place := eq_locationOf_of_locate located
  rw [start_eq_locationOf, ← Path.rooted_place] at start
  rw [place] at present
  rw [same, start_eq_locationOf, ← Path.rooted_place, place]
  exact (follow_ofSteps remembers stacked _).trans
    (follow_of_remembers remembers near start present)

end FileTree

namespace Path

/-- A settled path leads to the place of the path that is settled exactly if this climbs at most
one level above its start, which no absolute path does; from further up, only the parity of the
levels is left.  Where the place is kept, the settled path denotes in every tree what the path
denotes, unless nothing is left of its text. -/
theorem place_of_settled (root path : Path) :
    (absolute root path).place =
        { (root.join path).place with above := (root.join path).place.above % 2 } ∧
      ((absolute root path).place = (root.join path).place ↔
        (root.join path).place.above ≤ 1) ∧
      ((root.join path).isAbsolute = true → (root.join path).place.above = 0) ∧
      ∀ (t : FileTree) (location : Location), t.locate (root.join path) = .ok location →
        location = t.locationOf (root.join path).place ∧
          ((root.join path).place.above ≤ 1 → (absolute root path).text ≠ "" →
            t.locate (absolute root path) = .ok location) := by
  have halved := place_absolute root path
  refine ⟨halved, ?_, ?_, ?_⟩
  · rw [halved]
    constructor
    · intro same
      have levels := congrArg Place.above same
      simp only at levels
      omega
    · intro near
      rw [Nat.mod_eq_of_lt (Nat.lt_succ_of_le near)]
  · intro rooted
    rw [← rooted_place] at rooted
    exact (remembers_place _).above_of_rooted rooted
  · intro t location located
    exact ⟨FileTree.eq_locationOf_of_locate located,
      fun near named => FileTree.locate_absolute near named located⟩

/-- A working directory with a library beside it. -/
def workshopTree : FileTree :=
  let made := (FileTree.empty.makeDirectories? [] ["srv", "work", "src"]).bind
    (fun t => t.makeDirectories? [] ["srv", "lib"])
  { made.getD FileTree.empty with workDir := ["srv", "work"] }

/-- One level up the place is kept, and what is there is found. -/
theorem place_of_settled_workshop :
    workshopTree.locate ((⟨"./src"⟩ : Path).join ⟨"../../lib/."⟩) = .ok ["srv", "lib"] ∧
      workshopTree.locate (absolute ⟨"./src"⟩ ⟨"../../lib/."⟩) = .ok ["srv", "lib"] ∧
      absolute ⟨"./src"⟩ ⟨"../../lib/."⟩ = ⟨"../lib"⟩ := by
  have located : workshopTree.locate ((⟨"./src"⟩ : Path).join ⟨"../../lib/."⟩) =
      .ok ["srv", "lib"] := by rfl
  rcases place_of_settled ⟨"./src"⟩ ⟨"../../lib/."⟩ with ⟨_, _, _, inTree⟩
  exact ⟨located, (inTree workshopTree _ located).2 (by decide) (by decide), by decide⟩

/-- Two levels up from the start there is a place that settling does not keep. -/
theorem not_forall_place_kept :
    ¬ ∀ root path : Path, (absolute root path).place = (root.join path).place := by
  intro kept
  have same := kept ⟨""⟩ ⟨"../.."⟩
  revert same
  decide

end Path
end HostLink
