import HostLink.Path
import HostLink.Proofs.Text.Pieces

namespace HostLink

/-!
# Paths below a directory

A name that is joined to a directory adds its moves behind those of the directory.  So what
is joined lies below the directory, whatever the directory is called and whether or not its
text ends in a slash.
-/

namespace Path

theorem Step.ofSegment_ne_root (segment : String) : Step.ofSegment segment ≠ some .root := by
  unfold Step.ofSegment
  split <;> exact nofun

theorem Step.text_ofSegment {text : String} {s : Step}
    (moves : Step.ofSegment text = some s) : s.text = text := by
  unfold Step.ofSegment at moves
  split at moves <;> cases moves <;> rfl

theorem isIdle_iff {segment : String} : isIdle segment = true ↔ segment = "" ∨ segment = "." := by
  simp only [isIdle, Bool.or_eq_true, beq_iff_eq]

/-- A segment with a move is not idle. -/
theorem Step.isIdle_of_ofSegment {text : String} {s : Step}
    (moves : Step.ofSegment text = some s) : isIdle text = false := by
  unfold Step.ofSegment at moves
  split at moves
  · cases moves
  · cases moves
  · rfl
  · rename_i notEmpty notHere _
    simp only [isIdle, Bool.or_eq_false_iff, beq_eq_false_iff_ne]
    exact ⟨notEmpty, notHere⟩

/-- The moves of the first segment of a path.  Only here does an empty segment or `.` count. -/
def opening : String → List Step
  | "" => [.root]
  | "." => [.here]
  | segment => (Step.ofSegment segment).toList

/-- The moves of a path that is not empty are those of its first segment and those of the
others. -/
theorem steps_eq {p : Path} (written : p.text ≠ "") {first : String} {others : List String}
    (cut : Text.pieces '/' p.text = first :: others) :
    p.steps = opening first ++ others.filterMap Step.ofSegment := by
  unfold steps
  rw [cut]
  split
  case h_1 heading =>
    rw [heading] at cut
    have alone : Text.pieces '/' p.text = Text.pieces '/' "" := cut
    exact absurd (Text.pieces_injective alone) written
  case h_2 rest _ heading =>
    cases heading
    rfl
  case h_3 rest heading =>
    cases heading
    rfl
  case h_4 notEmpty notHere =>
    have named : opening first = (Step.ofSegment first).toList := by
      unfold opening
      split
      · exact absurd rfl (notEmpty _)
      · exact absurd rfl (notHere _)
      · rfl
    rw [named]
    cases found : Step.ofSegment first <;> simp [found]

/-- The segments on the way to what lies in a directory.  A slash at the end starts none. -/
def way (base : Path) : List String :=
  if Text.endsWith "/" base.text then (Text.pieces '/' base.text).dropLast
  else Text.pieces '/' base.text

theorem pieces_of_closed {base : Path} (closed : Text.endsWith "/" base.text = true) :
    ∃ start, base.text = start ++ "/" ∧ base.way = Text.pieces '/' start ∧
      Text.pieces '/' base.text = base.way ++ [""] := by
  rcases List.isSuffixOf_iff_suffix.mp closed with ⟨start, ending⟩
  have whole : base.text = String.ofList start ++ "/" ++ "" :=
    String.toList_injective (by simp [← ending])
  have cut : Text.pieces '/' base.text = Text.pieces '/' (String.ofList start) ++ [""] := by
    rw [whole, Text.pieces_append_separator]
    rfl
  have way : base.way = Text.pieces '/' (String.ofList start) := by
    simp only [Path.way, closed, if_true, cut, List.dropLast_concat]
  refine ⟨String.ofList start, ?_, way, ?_⟩
  · rw [whole, String.append_empty]
  · rw [way, cut]

theorem pieces_eq_way (base : Path) :
    Text.pieces '/' base.text = base.way ∨ Text.pieces '/' base.text = base.way ++ [""] := by
  by_cases closed : Text.endsWith "/" base.text = true
  · rcases pieces_of_closed closed with ⟨_, _, _, cut⟩
    exact Or.inr cut
  · exact Or.inl (by simp only [way, closed, if_false, Bool.false_eq_true])

/-- The segments of a joined path are those on the way and those of the name. -/
theorem pieces_child {base : Path} {name : String} (written : base.text ≠ "")
    (relative : (⟨name⟩ : Path).isAbsolute = false) :
    Text.pieces '/' (base.child name).text = base.way ++ Text.pieces '/' name := by
  unfold child join
  by_cases closed : Text.endsWith "/" base.text = true
  · rcases pieces_of_closed closed with ⟨start, whole, way, _⟩
    simp only [relative, Bool.false_eq_true, if_false, closed, Bool.or_true, if_true, way]
    rw [whole, Text.pieces_append_separator]
  · simp only [relative, written, closed, way, Bool.false_eq_true, if_false]
    exact Text.pieces_append_separator base.text name

theorem way_ne_nil {base : Path} (written : base.text ≠ "") : base.way ≠ [] := by
  intro none
  rcases pieces_eq_way base with cut | cut
  · rw [none] at cut
    exact Text.pieces_ne_nil '/' base.text cut
  · rw [none, List.nil_append] at cut
    have alone : Text.pieces '/' base.text = Text.pieces '/' "" := cut
    exact written (Text.pieces_injective alone)

/-- A relative name makes its moves after those of the directory. -/
theorem steps_child {base : Path} {name : String} (written : base.text ≠ "")
    (relative : (⟨name⟩ : Path).isAbsolute = false) :
    (base.child name).steps =
      base.steps ++ (Text.pieces '/' name).filterMap Step.ofSegment := by
  have child := pieces_child written relative
  rcases List.exists_cons_of_ne_nil (way_ne_nil written) with ⟨first, others, way⟩
  have joined : (base.child name).text ≠ "" := by
    intro vacant
    have moves := child
    rw [vacant, way] at moves
    have alone : others ++ Text.pieces '/' name = [] := (List.cons.inj moves).2.symm
    exact Text.pieces_ne_nil '/' name (List.append_eq_nil_iff.mp alone).2
  rw [way, List.cons_append] at child
  rw [steps_eq joined child, List.filterMap_append]
  rcases pieces_eq_way base with own | own
  · rw [way] at own
    rw [steps_eq written own, List.append_assoc]
  · rw [way, List.cons_append] at own
    have idle : (others ++ [""]).filterMap Step.ofSegment = others.filterMap Step.ofSegment := by
      rw [List.filterMap_append]
      exact List.append_nil _
    rw [steps_eq written own, idle, List.append_assoc]

/-- What is joined to a directory lies below it. -/
theorem isUnder_child (base : Path) {name : String}
    (relative : (⟨name⟩ : Path).isAbsolute = false) : base.isUnder (base.child name) = true := by
  unfold isUnder
  rw [List.isPrefixOf_iff_prefix]
  by_cases written : base.text = ""
  · have still : base.steps = [] := by
      unfold steps
      rw [written]
      rfl
    rw [still]
    exact List.nil_prefix
  · rw [steps_child written relative]
    exact List.prefix_append _ _

theorem isAbsolute_of_notMem {name : String} (single : '/' ∉ name.toList) :
    (⟨name⟩ : Path).isAbsolute = false := by
  unfold isAbsolute
  cases characters : name.toList with
  | nil => rfl
  | cons c rest =>
      have other : c ≠ '/' := fun same => single (by rw [characters, same]; exact List.mem_cons_self)
      simp [other]

/-- A joined path begins as the directory is written, and ends with the name. -/
theorem text_child (base : Path) {name : String}
    (relative : (⟨name⟩ : Path).isAbsolute = false) :
    ∃ between, (between = "" ∨ between = "/") ∧
      (base.child name).text = base.text ++ (between ++ name) := by
  unfold child join
  by_cases closed : base.text = "" || Text.endsWith "/" base.text
  · refine ⟨"", Or.inl rfl, ?_⟩
    simp only [relative, closed, Bool.false_eq_true, if_false, if_true, String.empty_append]
  · refine ⟨"/", Or.inr rfl, ?_⟩
    simp only [relative, closed, Bool.false_eq_true, if_false, String.append_assoc]

/-- The name that is joined does not matter for where a path starts. -/
theorem isAbsolute_child {base : Path} {name : String} (written : base.text ≠ "")
    (relative : (⟨name⟩ : Path).isAbsolute = false) :
    (base.child name).isAbsolute = base.isAbsolute := by
  rcases text_child base relative with ⟨between, _, text⟩
  unfold isAbsolute
  rw [text, String.toList_append]
  cases characters : base.text.toList with
  | nil => exact absurd (String.toList_eq_nil_iff.mp characters) written
  | cons c rest => rfl

/-- A slash at the end of a directory changes nothing for what is joined to it. -/
theorem child_child_empty {base : Path} (written : base.text ≠ "") (name : String) :
    (base.child "").child name = base.child name := by
  have vacant : (⟨""⟩ : Path).isAbsolute = false := rfl
  by_cases closed : Text.endsWith "/" base.text = true
  · have same : base.child "" = base := by
      unfold child join
      simp only [vacant, closed, Bool.false_eq_true, if_false, Bool.or_true, if_true,
        String.append_empty]
    rw [same]
  · have slash : base.child "" = ⟨base.text ++ "/"⟩ := by
      unfold child join
      simp only [vacant, closed, written, Bool.false_eq_true, if_false, Bool.or_false,
        decide_false, String.append_empty]
    have ends : Text.endsWith "/" (base.text ++ "/") = true := by
      unfold Text.endsWith
      rw [List.isSuffixOf_iff_suffix, String.toList_append]
      exact List.suffix_append _ _
    rw [slash]
    unfold child join
    simp only [closed, ends, written, Bool.or_true, if_true, Bool.or_false, decide_false,
      Bool.false_eq_true, if_false]

/-- A text without a slash at its end stays so when a name is joined. -/
theorem opened_child {base : Path} {name : String} (written : base.text ≠ "")
    (single : '/' ∉ name.toList) (named : name ≠ "") :
    Text.endsWith "/" (base.child name).text = false := by
  apply Bool.eq_false_iff.mpr
  intro closed
  rcases pieces_of_closed closed with ⟨_, _, _, cut⟩
  rw [pieces_child written (isAbsolute_of_notMem single), Text.pieces_of_notMem single] at cut
  exact absurd (List.append_inj' cut rfl).2 (by simpa using named)

/-- The segments on the way to what lies in a subdirectory. -/
theorem way_child {base : Path} {name : String} (written : base.text ≠ "")
    (single : '/' ∉ name.toList) (named : name ≠ "") :
    (base.child name).way = base.way ++ [name] := by
  have opened := opened_child written single named
  unfold way
  simp only [opened, Bool.false_eq_true, if_false]
  rw [pieces_child written (isAbsolute_of_notMem single), Text.pieces_of_notMem single]
  rfl

theorem text_child_ne_empty {base : Path} {name : String} (written : base.text ≠ "")
    (single : '/' ∉ name.toList) : (base.child name).text ≠ "" := by
  intro vacant
  have cut := pieces_child written (isAbsolute_of_notMem single)
  rw [vacant, Text.pieces_of_notMem single] at cut
  have same := congrArg List.length cut
  have way := List.length_pos_iff.mpr (way_ne_nil written)
  have one : (Text.pieces '/' "").length = 1 := rfl
  rw [one, List.length_append, List.length_singleton] at same
  omega

/-- The last name of what lies in a directory. -/
theorem fileName?_child {base : Path} {name : String} (written : base.text ≠ "")
    (single : '/' ∉ name.toList) (moves : Step.ofSegment name = some (.name name)) :
    (base.child name).fileName? = some name := by
  unfold fileName?
  rw [steps_child written (isAbsolute_of_notMem single), Text.pieces_of_notMem single]
  simp only [List.filterMap_cons, moves, List.filterMap_nil, List.getLast?_append,
    List.getLast?_singleton, Option.some_or]

theorem isUnder_trans {a b c : Path} (outer : a.isUnder b = true) (inner : b.isUnder c = true) :
    a.isUnder c = true := by
  unfold isUnder at *
  rw [List.isPrefixOf_iff_prefix] at *
  exact outer.trans inner

end Path
end HostLink
