import HostLink.Text.Pieces

namespace HostLink

/-!
# Cutting and joining

Cutting a text at a separator and joining parts with it undo each other, as long as no part
holds the separator.  So the pieces of a text are the only parts that make it up, and what is
written with separators can be described without cutting anything.
-/

namespace Text

/-- A separator between two texts separates their pieces. -/
theorem piecesOf_append_cons (separator : Char) (text rest : List Char) :
    piecesOf separator (text ++ separator :: rest) =
      piecesOf separator text ++ piecesOf separator rest := by
  induction text with
  | nil => simp only [List.nil_append, piecesOf, if_true, List.singleton_append]
  | cons c text inductionHypothesis =>
      simp only [List.cons_append, piecesOf, inductionHypothesis]
      by_cases cut : c = separator
      · simp only [cut, if_true, List.cons_append]
      · simp only [cut, if_false]
        cases found : piecesOf separator text with
        | nil => exact absurd found (piecesOf_ne_nil separator text)
        | cons piece pieces => simp only [List.cons_append]

theorem pieces_append_separator (text rest : String) :
    pieces '/' (text ++ "/" ++ rest) = pieces '/' text ++ pieces '/' rest := by
  have characters : (text ++ "/" ++ rest).toList = text.toList ++ '/' :: rest.toList := by
    simp
  simp only [pieces, characters, piecesOf_append_cons, List.map_append]

theorem pieces_ne_nil (separator : Char) (text : String) : pieces separator text ≠ [] := by
  simp only [pieces, ne_eq, List.map_eq_nil_iff]
  exact piecesOf_ne_nil separator text.toList

theorem piecesOf_of_notMem {separator : Char} {text : List Char} (absent : separator ∉ text) :
    piecesOf separator text = [text] := by
  induction text with
  | nil => rfl
  | cons c rest inductionHypothesis =>
      have other : c ≠ separator := fun same => absent (same ▸ List.mem_cons_self)
      have alone := inductionHypothesis (fun later => absent (List.mem_cons_of_mem _ later))
      simp only [piecesOf, other, if_false, alone]

theorem pieces_of_notMem {separator : Char} {text : String} (absent : separator ∉ text.toList) :
    pieces separator text = [text] := by
  simp only [pieces, piecesOf_of_notMem absent, List.map_cons, List.map_nil, String.ofList_toList]

theorem pieces_injective {separator : Char} {text other : String}
    (same : pieces separator text = pieces separator other) : text = other := by
  have characters : piecesOf separator text.toList = piecesOf separator other.toList := by
    have undone := congrArg (List.map String.toList) same
    simpa [pieces, Function.comp_def] using undone
  have whole := intercalate_piecesOf separator text.toList
  rw [characters, intercalate_piecesOf separator other.toList] at whole
  exact String.toList_injective whole.symm

/-- The characters of a piece come from the text. -/
theorem mem_of_mem_piecesOf {separator c : Char} {text piece : List Char}
    (listed : piece ∈ piecesOf separator text) (inside : c ∈ piece) : c ∈ text := by
  induction text generalizing piece with
  | nil =>
      rw [piecesOf, List.mem_singleton] at listed
      rw [listed] at inside
      exact inside
  | cons d rest inductionHypothesis =>
      rw [piecesOf] at listed
      split at listed
      · rcases List.mem_cons.mp listed with same | later
        · rw [same] at inside
          cases inside
        · exact List.mem_cons_of_mem _ (inductionHypothesis later inside)
      · cases found : piecesOf separator rest with
        | nil => exact absurd found (piecesOf_ne_nil separator rest)
        | cons first others =>
            rw [found] at listed inductionHypothesis
            rcases List.mem_cons.mp listed with same | later
            · rw [same] at inside
              rcases List.mem_cons.mp inside with front | behind
              · rw [front]
                exact List.mem_cons_self
              · exact List.mem_cons_of_mem _ (inductionHypothesis List.mem_cons_self behind)
            · have member := List.mem_cons_of_mem first later
              exact List.mem_cons_of_mem _ (inductionHypothesis member inside)

theorem mem_of_mem_pieces {separator c : Char} {text piece : String}
    (listed : piece ∈ pieces separator text) (inside : c ∈ piece.toList) : c ∈ text.toList := by
  rcases List.mem_map.mp listed with ⟨characters, member, same⟩
  rw [← same, String.toList_ofList] at inside
  exact mem_of_mem_piecesOf member inside

/-- Every character but the separator comes into a piece. -/
theorem exists_mem_pieces {separator c : Char} {text : String} (inside : c ∈ text.toList)
    (other : c ≠ separator) : ∃ piece ∈ pieces separator text, c ∈ piece.toList := by
  have cut : ∀ characters : List Char, c ∈ characters →
      ∃ piece ∈ piecesOf separator characters, c ∈ piece := by
    intro characters
    induction characters with
    | nil => exact nofun
    | cons d rest inductionHypothesis =>
        intro inside
        rw [piecesOf]
        rcases List.mem_cons.mp inside with rfl | later
        · rw [if_neg other]
          split
          · exact ⟨[c], List.mem_cons_self, List.mem_cons_self⟩
          · exact ⟨_, List.mem_cons_self, List.mem_cons_self⟩
        · rcases inductionHypothesis later with ⟨piece, listed, member⟩
          split
          · exact ⟨piece, List.mem_cons_of_mem _ listed, member⟩
          · split
            · rename_i vacant
              rw [vacant] at listed
              cases listed
            · rename_i first others found
              rw [found] at listed
              rcases List.mem_cons.mp listed with rfl | behind
              · exact ⟨_, List.mem_cons_self, List.mem_cons_of_mem _ member⟩
              · exact ⟨piece, List.mem_cons_of_mem _ behind, member⟩
  rcases cut text.toList inside with ⟨piece, listed, member⟩
  refine ⟨String.ofList piece, List.mem_map_of_mem listed, ?_⟩
  rw [String.toList_ofList]
  exact member

/-- An empty first piece is what stands before a separator at the start. -/
theorem eq_cons_of_pieces {separator : Char} {text : String} {more : List String}
    (cut : pieces separator text = "" :: more) (later : more ≠ []) :
    ∃ rest : String, text.toList = separator :: rest.toList ∧ pieces separator rest = more := by
  unfold pieces at cut
  cases characters : text.toList with
  | nil =>
      rw [characters] at cut
      exact absurd (List.cons.inj cut).2.symm later
  | cons c rest =>
      rw [characters, piecesOf] at cut
      by_cases same : c = separator
      · rw [if_pos same, List.map_cons] at cut
        refine ⟨String.ofList rest, ?_, ?_⟩
        · rw [String.toList_ofList, same]
        · unfold pieces
          rw [String.toList_ofList]
          exact (List.cons.inj cut).2
      · rw [if_neg same] at cut
        cases found : piecesOf separator rest with
        | nil => exact absurd found (piecesOf_ne_nil separator rest)
        | cons first others =>
            rw [found, List.map_cons] at cut
            have vacant := congrArg String.toList (List.cons.inj cut).1
            rw [String.toList_ofList] at vacant
            cases vacant

theorem notMem_of_mem_pieces {separator : Char} {text piece : String}
    (member : piece ∈ pieces separator text) : separator ∉ piece.toList := by
  rcases List.mem_map.mp member with ⟨characters, listed, same⟩
  rw [← same, String.toList_ofList]
  exact separator_notMem_piecesOf listed

/-! ## The parts of a text -/

theorem piecesOf_intercalate {separator : Char} {parts : List (List Char)} (some : parts ≠ [])
    (separate : ∀ part ∈ parts, separator ∉ part) :
    piecesOf separator ([separator].intercalate parts) = parts := by
  induction parts with
  | nil => exact absurd rfl some
  | cons part rest inductionHypothesis =>
      have alone : piecesOf separator part = [part] :=
        piecesOf_of_notMem (separate part List.mem_cons_self)
      cases rest with
      | nil => rw [List.intercalate_singleton, alone]
      | cons next rest =>
          have later := inductionHypothesis (List.cons_ne_nil _ _)
            (fun other listed => separate other (List.mem_cons_of_mem _ listed))
          rw [List.intercalate_cons_cons, List.append_assoc, List.singleton_append,
            piecesOf_append_cons, alone, later, List.singleton_append]

/-- The parts of a text at a separator: joined with it they make up the text, and none of them
holds it. -/
structure Parts (separator : Char) (text : String) (parts : List String) : Prop where
  whole : text = joined (String.singleton separator) parts
  some : parts ≠ []
  separate : ∀ part ∈ parts, separator ∉ part.toList

theorem toList_joined (separator : Char) (parts : List String) :
    (joined (String.singleton separator) parts).toList =
      [separator].intercalate (parts.map String.toList) := by
  rw [joined, String.toList_intercalate, String.toList_singleton]

/-- Every part but the first comes behind a separator. -/
theorem joined_cons (separator first : String) (rest : List String) :
    joined separator (first :: rest) = first ++ String.join (rest.map (separator ++ ·)) := by
  unfold joined
  induction rest generalizing first with
  | nil => simp
  | cons next rest inductionHypothesis =>
      rw [String.intercalate_cons_cons, inductionHypothesis, List.map_cons, String.join_cons]
      simp only [String.append_assoc]

/-- A text has one list of parts, and cutting it finds them. -/
theorem parts_iff {separator : Char} {text : String} {parts : List String} :
    Parts separator text parts ↔ pieces separator text = parts := by
  constructor
  · rintro ⟨whole, some, separate⟩
    have characters : ∀ part ∈ parts.map String.toList, separator ∉ part := by
      intro part listed
      rcases List.mem_map.mp listed with ⟨own, member, same⟩
      rw [← same]
      exact separate own member
    have kept : parts.map String.toList ≠ [] := by simpa using some
    rw [pieces, whole, toList_joined, piecesOf_intercalate kept characters, List.map_map]
    exact (List.map_congr_left (fun part _ => String.ofList_toList)).trans (List.map_id parts)
  · intro cut
    rw [← cut]
    refine ⟨?_, pieces_ne_nil separator text, fun part => notMem_of_mem_pieces⟩
    apply String.toList_injective
    have undone : (pieces separator text).map String.toList = piecesOf separator text.toList := by
      rw [pieces, List.map_map]
      exact (List.map_congr_left (fun part _ => String.toList_ofList)).trans (List.map_id _)
    rw [toList_joined, undone, intercalate_piecesOf]

/-- The characters of a part come from the text. -/
theorem Parts.mem_of_mem {separator c : Char} {text part : String} {parts : List String}
    (cut : Parts separator text parts) (listed : part ∈ parts) (inside : c ∈ part.toList) :
    c ∈ text.toList := by
  rw [← parts_iff.mp cut] at listed
  exact mem_of_mem_pieces listed inside

/-! ## The first separator -/

theorem cutAt_append_cons {separator : Char} {before : List Char} (after : List Char)
    (first : separator ∉ before) :
    cutAt separator (before ++ separator :: after) = some (before, after) := by
  induction before with
  | nil => simp [cutAt]
  | cons c before inductionHypothesis =>
      have other : c ≠ separator := fun same => first (same ▸ List.mem_cons_self)
      have later := inductionHypothesis (fun inside => first (List.mem_cons_of_mem _ inside))
      simp [cutAt, other, later]

/-- A text is cut in two at its first separator. -/
theorem cut?_eq_some_iff {separator : Char} {text before after : String} :
    cut? separator text = some (before, after) ↔
      text = before ++ String.singleton separator ++ after ∧ separator ∉ before.toList := by
  have characters : text = before ++ String.singleton separator ++ after ↔
      text.toList = before.toList ++ separator :: after.toList := by
    rw [← String.toList_inj]
    simp
  rw [characters, cut?, Option.map_eq_some_iff]
  constructor
  · rintro ⟨⟨front, behind⟩, cut, same⟩
    cases same
    rw [String.toList_ofList, String.toList_ofList]
    exact eq_of_cutAt cut
  · rintro ⟨whole, first⟩
    refine ⟨(before.toList, after.toList), ?_, ?_⟩
    · rw [whole]
      exact cutAt_append_cons _ first
    · simp only [String.ofList_toList]

/-- A text is cut in two at its last separator. -/
theorem cutLast?_eq_some_iff {separator : Char} {text before after : String} :
    cutLast? separator text = some (before, after) ↔
      text = before ++ String.singleton separator ++ after ∧ separator ∉ after.toList := by
  have characters : text = before ++ String.singleton separator ++ after ↔
      text.toList.reverse = after.toList.reverse ++ separator :: before.toList.reverse := by
    rw [← String.toList_inj, ← List.reverse_inj]
    simp
  rw [characters, cutLast?, Option.map_eq_some_iff]
  constructor
  · rintro ⟨⟨behind, front⟩, cut, same⟩
    cases same
    simp only [String.toList_ofList, List.reverse_reverse]
    rcases eq_of_cutAt cut with ⟨whole, last⟩
    exact ⟨whole, fun inside => last (List.mem_reverse.mp inside)⟩
  · rintro ⟨whole, last⟩
    refine ⟨(after.toList.reverse, before.toList.reverse), ?_, ?_⟩
    · rw [whole]
      exact cutAt_append_cons _ (fun inside => last (List.mem_reverse.mp inside))
    · simp only [List.reverse_reverse, String.ofList_toList]

/-! ## Beginnings and endings -/

theorem startsWith_iff {start text : String} :
    startsWith start text = true ↔ ∃ rest, text = start ++ rest := by
  rw [startsWith, List.isPrefixOf_iff_prefix]
  constructor
  · rintro ⟨rest, whole⟩
    refine ⟨String.ofList rest, String.toList_injective ?_⟩
    rw [String.toList_append, String.toList_ofList, whole]
  · rintro ⟨rest, rfl⟩
    rw [String.toList_append]
    exact List.prefix_append _ _

theorem endsWith_iff {ending text : String} :
    endsWith ending text = true ↔ ∃ front, text = front ++ ending := by
  rw [endsWith, List.isSuffixOf_iff_suffix]
  constructor
  · rintro ⟨front, whole⟩
    refine ⟨String.ofList front, String.toList_injective ?_⟩
    rw [String.toList_append, String.toList_ofList, whole]
  · rintro ⟨front, rfl⟩
    rw [String.toList_append]
    exact List.suffix_append _ _

theorem after?_eq_some_iff {start text rest : String} :
    after? start text = some rest ↔ text = start ++ rest := by
  rw [after?, Option.map_eq_some_iff]
  constructor
  · rintro ⟨behind, found, rfl⟩
    apply String.toList_injective
    rw [String.toList_append, String.toList_ofList]
    exact afterStart?_eq_some_iff.mp found
  · rintro rfl
    refine ⟨rest.toList, afterStart?_eq_some_iff.mpr ?_, String.ofList_toList⟩
    rw [String.toList_append]

/-! ## Replacing a character -/

theorem replaceChar_of_notMem {old new : Char} {text : String} (absent : old ∉ text.toList) :
    replaceChar old new text = text := by
  unfold replaceChar
  have same : text.toList.map (fun c => if c = old then new else c) = text.toList := by
    refine (List.map_congr_left ?_).trans (List.map_id _)
    intro c inside
    have other : c ≠ old := fun found => absent (found ▸ inside)
    rw [if_neg other]
    rfl
  rw [same, String.ofList_toList]

theorem notMem_replaceChar {old new c : Char} {text : String} (absent : c ∉ text.toList)
    (other : c ≠ new) : c ∉ (replaceChar old new text).toList := by
  unfold replaceChar
  rw [String.toList_ofList, List.mem_map]
  rintro ⟨d, inside, replaced⟩
  split at replaced
  · exact other replaced.symm
  · rw [replaced] at inside
    exact absent inside

theorem old_notMem_replaceChar {old new : Char} (text : String) (other : old ≠ new) :
    old ∉ (replaceChar old new text).toList := by
  unfold replaceChar
  rw [String.toList_ofList, List.mem_map]
  rintro ⟨d, _, replaced⟩
  split at replaced
  · exact other replaced.symm
  · exact absurd replaced ‹_›

end Text
end HostLink
