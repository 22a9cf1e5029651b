import HostLink.Proofs.Glob.Walk

namespace HostLink

/-!
# Names with a stem behind an escaped directory

A pattern of an escaped directory, a stem, a star and an ending finds the names in that
directory that begin with the stem and end so.  They are found in the order in which the
directory lists them, and none is left out, unless the search loses its way to the directory.
-/

namespace Glob

/-! ## Reading a pattern behind an escaped directory -/

section Reading

variable {d : Path} {stem ending : String}

/-- The pattern for the names in a directory that begin with a stem and have an ending. -/
def stemPattern (d : Path) (stem ending : String) : String :=
  escaped (d.child stem).text ++ ("*" ++ ending)

theorem child_eq_of_opened (written : d.text ≠ "") (opened : Text.endsWith "/" d.text = false)
    {name : String} (single : '/' ∉ name.toList) : (d.child name).text = d.text ++ "/" ++ name := by
  unfold Path.child Path.join
  simp only [Path.isAbsolute_of_notMem single, written, opened, Bool.false_eq_true, if_false,
    Bool.or_false, decide_false]

/-- The pattern is cut into the components of the route, escaped, and a last one. -/
theorem componentTexts_stemPattern (written : d.text ≠ "")
    (opened : Text.endsWith "/" d.text = false) (single : '/' ∉ stem.toList)
    (closing : IsEnding ending) :
    Text.startsWith "/" (stemPattern d stem ending) = d.isAbsolute ∧
      Query.componentTexts (stemPattern d stem ending) =
        (route d).map escaped ++ [escaped stem ++ ("*" ++ ending)] := by
  have last : '/' ∉ (escaped stem ++ ("*" ++ ending)).toList := by
    rw [String.toList_append]
    intro inside
    rcases List.mem_append.mp inside with own | behind
    · exact notMem_escaped single own
    · exact closing.single_star behind
  have named : escaped stem ++ ("*" ++ ending) ≠ "" := by
    intro vacant
    have characters := congrArg String.toList vacant
    rw [String.toList_append] at characters
    exact star_ne_empty ending
      (String.toList_injective (List.append_eq_nil_iff.mp characters).2)
  have slash : escaped "/" = "/" := rfl
  have cut : Text.pieces '/' (stemPattern d stem ending) =
      (Text.pieces '/' d.text).map escaped ++ [escaped stem ++ ("*" ++ ending)] := by
    unfold stemPattern
    rw [child_eq_of_opened written opened single, escaped_append, escaped_append, slash,
      String.append_assoc, Text.pieces_append_separator, pieces_escaped,
      Text.pieces_of_notMem last]
  rcases pieces_eq_route written with ⟨starts, pieces, _⟩ | ⟨starts, pieces, first⟩
  · rw [starts]
    rw [pieces] at cut
    exact componentTexts_absolute named cut
  · rw [starts]
    rw [pieces] at cut
    cases names : route d with
    | nil =>
        rw [names] at pieces
        exact absurd pieces (Text.pieces_ne_nil _ _)
    | cons name others =>
        rw [names] at cut first
        have opens : escaped name ≠ "" := by
          rw [Ne, escaped_eq_empty_iff]
          rintro rfl
          exact first rfl
        exact componentTexts_relative opens named cut

theorem opened_stemPattern (closing : IsEnding ending) :
    Text.endsWith "/" (stemPattern d stem ending) = false := by
  apply Bool.eq_false_iff.mpr
  intro closed
  rcases Text.endsWith_iff.mp closed with ⟨front, whole⟩
  have nonempty : ("*" ++ ending).toList ≠ [] := by
    rw [Ne, String.toList_eq_nil_iff]
    exact star_ne_empty ending
  have last := congrArg (fun text : String => text.toList.getLast?) whole
  simp only [stemPattern, String.toList_append (s := escaped _),
    List.getLast?_append_of_ne_nil _ nonempty] at last
  rw [String.toList_append (s := front), List.getLast?_append] at last
  exact closing.single_star (List.mem_of_getLast? last)

theorem read_stemPattern (written : d.text ≠ "") (opened : Text.endsWith "/" d.text = false)
    (single : '/' ∉ stem.toList) (closing : IsEnding ending) :
    Query.read (stemPattern d stem ending) =
      .ok ⟨origin d, (route d).map only ++ [.wild (stemmed stem ending)], false⟩ := by
  rcases componentTexts_stemPattern written opened single closing with ⟨starts, cut⟩
  have front : ((route d).map escaped).mapM tokens =
      .ok (((route d).map (fun name => name.toList.map escapedToken))) := by
    rw [List.mapM_map]
    exact mapM_of_ok (fun name _ => tokens_escaped name)
  have each : ((route d).map escaped ++ [escaped stem ++ ("*" ++ ending)]).mapM tokens =
      .ok ((route d).map (fun name => name.toList.map escapedToken) ++ [stemmed stem ending]) := by
    rw [List.mapM_append, front, List.mapM_cons, tokens_stemmed stem closing]
    rfl
  have components :
      ((route d).map (fun name => name.toList.map escapedToken) ++ [stemmed stem ending]).map
        Component.ofTokens = (route d).map only ++ [.wild (stemmed stem ending)] := by
    rw [List.map_append, List.map_map, List.map_singleton, ofTokens_stemmed]
    rfl
  have noDepth : Component.anyDepth ∉ (route d).map only ++ [.wild (stemmed stem ending)] := by
    intro listed
    rcases List.mem_append.mp listed with early | last
    · rcases List.mem_map.mp early with ⟨name, _, same⟩
      rcases only_eq name with plain | ⟨wild, _⟩
      · rw [plain] at same
        cases same
      · rw [wild] at same
        cases same
    · cases List.mem_singleton.mp last
  rw [← components] at noDepth ⊢
  have whole : tokens (stemPattern d stem ending) = .ok (stemmed (d.child stem).text ending) :=
    tokens_stemmed _ closing
  rw [read_of_mapM whole cut each noDepth, starts, opened_stemPattern closing]
  rfl

end Reading

/-! ## What is found -/

section Found

variable {t : FileTree} {d : Path} {stem ending : String}

/-- The entries of a directory are told apart by their last step. -/
theorem steps_entryPath (written : d.text ≠ "") : ∃ front, ∀ name,
    '/' ∉ name.toList ∧ Path.Step.ofSegment name = some (.name name) →
      (entryPath d name).steps = front ++ [.name name] := by
  by_cases here : d.steps = [.here]
  · refine ⟨[], ?_⟩
    rintro name ⟨single, moves⟩
    have named : name ≠ "" := by
      rintro rfl
      cases moves
    have proper : name ≠ "." := by
      rintro rfl
      cases moves
    unfold entryPath
    rw [if_pos here, Path.steps_eq named (Text.pieces_of_notMem single)]
    unfold Path.opening
    split
    case h_1 same => exact absurd same named
    case h_2 same => exact absurd same proper
    case h_3 =>
      rw [moves]
      rfl
  · refine ⟨d.steps, ?_⟩
    rintro name ⟨single, moves⟩
    unfold entryPath
    rw [if_neg here, Path.steps_child written (Path.isAbsolute_of_notMem single),
      Text.pieces_of_notMem single, List.filterMap_cons_some moves]
    rfl

theorem fileName?_entryPath (written : d.text ≠ "") {name : String}
    (named : '/' ∉ name.toList ∧ Path.Step.ofSegment name = some (.name name)) :
    (entryPath d name).fileName? = some name := by
  rcases steps_entryPath written with ⟨front, steps⟩
  unfold Path.fileName?
  rw [steps name named, List.getLast?_concat]

/-- What the search sees in a directory is written with its name at the end. -/
theorem fileName?_of_mem_seen {name : String} (listed : name ∈ seen t d) :
    (entryPath (walk d) name).fileName? = some name := by
  unfold seen at listed
  split at listed
  · cases listed
  · rename_i finds
    have stand := stand_origin (Bool.eq_false_iff.mpr finds)
    have walked : Stand (walk d) [] := stand.walked (fun name => single_of_mem_route)
    exact fileName?_entryPath walked.written (isName_of_mem_namesAt listed)

theorem sorted_seen (t : FileTree) (d : Path) :
    (seen t d).Pairwise (fun a b => KeyOrder.before a b = true) := by
  unfold seen
  split
  · exact List.Pairwise.nil
  · exact sorted_namesAt t (walk d)

/-- Entries that are found in the order of their names need no sorting. -/
theorem sort_entries (written : d.text ≠ "") (kept : String → Bool) :
    Path.sort (((namesAt t d).filter kept).map (entryPath d)) =
      ((namesAt t d).filter kept).map (entryPath d) := by
  rcases steps_entryPath written with ⟨front, steps⟩
  unfold Path.sort
  apply List.mergeSort_of_pairwise
  rw [List.pairwise_map]
  refine ((sorted_namesAt t d).filter kept).imp_of_mem ?_
  intro one other listed listed' before
  have named := isName_of_mem_namesAt (List.mem_of_mem_filter listed)
  have named' := isName_of_mem_namesAt (List.mem_of_mem_filter listed')
  have later : KeyOrder.beforeList (front ++ [Path.Step.name other])
      (front ++ [Path.Step.name one]) = KeyOrder.before other one := by
    rw [KeyOrder.beforeList_append, KeyOrder.beforeList_singleton]
    change Path.stepBefore (.name other) (.name one) = _
    simp [Path.stepBefore, Path.Step.rank, Path.Step.text]
  rw [steps one named, steps other named', Bool.not_eq_true']
  exact later.trans (KeyOrder.asymm before)

/-- Behind an escaped directory a stem and an ending find the names that the search sees there
and that begin and end so, in their order. -/
theorem paths_stemPattern (written : d.text ≠ "") (opened : Text.endsWith "/" d.text = false)
    (single : '/' ∉ stem.toList) (closing : IsEnding ending)
    (ordinary : specialNames (stemmed stem ending) = []) :
    paths t (stemPattern d stem ending) =
      .ok (((seen t d).filter (fun name => fits (stemmed stem ending) name.toList)).map
        (entryPath (walk d))) := by
  unfold paths seen
  rw [read_stemPattern written opened single closing]
  simp only
  cases lost : loses d with
  | true =>
      unfold loses at lost
      simp only [Bool.and_eq_true, Bool.not_eq_true', beq_iff_eq] at lost
      have work : origin d = ⟨"."⟩ := by
        unfold origin
        rw [lost.1]
        rfl
      rw [work, search_lost lost.2]
      simp [Path.sort]
  | false =>
      have stand := stand_origin lost
      have walked : Stand (walk d) [] := stand.walked (fun name => single_of_mem_route)
      rw [search_walked stand (fun name => single_of_mem_route)]
      change Except.ok (Path.sort (search t false [.wild (stemmed stem ending)] (walk d))) = _
      rw [search_wild ordinary, sort_entries walked.written]
      rfl

end Found

end Glob
end HostLink
