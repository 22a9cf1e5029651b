import HostLink.Host
import HostLink.Proofs.Glob.Literal
import HostLink.Proofs.Glob.Removal
import HostLink.Proofs.Path.Place
import Mathlib.Data.List.Induction

namespace HostLink

/-!
# Removals below the project root

A pattern that counts from the project root is searched for behind the root, and the root is
read as a part of it.  Where no character of the root means anything in a pattern, the search
walks to the root name by name.  From there on it goes below, as names in a directory lead down,
and so does a component that does not take the name of the directory above.  Then whatever is
removed lies below the place of the root.

Without the first condition other directories are searched that fit the root, and without the
second the search leaves the root again.  For the second it is not enough that no component is
`..`, since `.*` takes this name as well.
-/

/-! ## Places below a place -/

namespace Path

/-- One place lies below another if names alone lead there. -/
structure Place.Below (base place : Place) : Prop where
  rooted : place.rooted = base.rooted
  above : place.above = base.above
  names : base.names <:+ place.names

theorem Place.Below.refl (place : Place) : place.Below place :=
  ⟨rfl, rfl, List.suffix_refl _⟩

theorem Place.Below.trans {a b c : Place} (outer : a.Below b) (inner : b.Below c) : a.Below c :=
  ⟨inner.rooted.trans outer.rooted, inner.above.trans outer.above, outer.names.trans inner.names⟩

/-- Every segment but `..` leads below or nowhere. -/
theorem Place.below_segment (place : Place) {segment : String} (single : '/' ∉ segment.toList)
    (level : segment ≠ "..") :
    place.Below ((Step.ofSegment segment).toList.foldl Place.move place) := by
  cases moves : Step.ofSegment segment with
  | none => exact .refl place
  | some s =>
      have inner := Step.inner_of_ofSegment single moves
      have written := Step.text_ofSegment moves
      cases s with
      | root => exact absurd rfl inner.ne_root
      | here => exact .refl place
      | up => exact absurd written.symm level
      | name name => exact ⟨rfl, rfl, List.suffix_cons _ _⟩

theorem place_single {name : String} (single : '/' ∉ name.toList) :
    (⟨name⟩ : Path).place = (Step.ofSegment name).toList.foldl Place.move ⟨false, 0, []⟩ := by
  rw [place_eq_of_segments, isAbsolute_of_notMem single, Text.pieces_of_notMem single]
  exact Place.moves_cons _ name []

theorem place_child (d : Path) {name : String} (single : '/' ∉ name.toList) :
    (d.child name).place = (Step.ofSegment name).toList.foldl Place.move d.place := by
  have relative := isAbsolute_of_notMem single
  by_cases written : d.text = ""
  · have vacant : d = ⟨""⟩ := congrArg Path.mk written
    have alone : (⟨""⟩ : Path).child name = ⟨name⟩ := by
      unfold child join
      rw [relative]
      simp
    rw [vacant, alone]
    exact place_single single
  · unfold place
    rw [steps_child written relative, Text.pieces_of_notMem single, List.foldl_append]
    exact Place.moves_cons _ name []

/-- The segments on the way to what lies in a directory lead to the directory. -/
theorem place_eq_of_way (base : Path) :
    base.place = (base.way.filterMap Step.ofSegment).foldl Place.move ⟨base.isAbsolute, 0, []⟩ := by
  rw [place_eq_of_segments]
  rcases pieces_eq_way base with same | closed
  · rw [same]
  · have idle : [""].filterMap Step.ofSegment = [] := rfl
    rw [closed, List.filterMap_append, idle, List.append_nil]

end Path

namespace FileTree

open HostLink.Path (Place)

theorem locationOf_prefix (t : FileTree) {base place : Place} (below : base.Below place) :
    t.locationOf base <+: t.locationOf place := by
  unfold locationOf
  rw [below.rooted, below.above]
  exact (List.prefix_append_right_inj _).mpr (List.reverse_prefix.mpr below.names)

/-- Every name on the way to what is in the tree can stand in a directory. -/
theorem isName_of_mem {t : FileTree} {location : Location} {way : List String}
    (present : (t.entryAt (location ++ way)).isSome = true) {name : String}
    (listed : name ∈ way) : isName name = true := by
  induction way using List.reverseRecOn with
  | nil => cases listed
  | append_singleton front last inductionHypothesis =>
      rw [← List.append_assoc] at present
      rcases List.mem_append.mp listed with early | own
      · refine inductionHypothesis ?_ early
        rw [t.entryAt_parent present]
        rfl
      · rw [List.mem_singleton.mp own]
        exact t.isName_of_entryAt present

end FileTree

namespace Glob

open HostLink.Path (Place)

/-! ## Searching below a directory -/

/-- A component that leads no further up than it starts. -/
def Component.Level : Component → Prop
  | .plain name => '/' ∉ name.toList ∧ name ≠ ".."
  | .wild tokens => ".." ∉ specialNames tokens
  | .anyDepth => True

theorem place_entryPath (d : Path) {name : String} (single : '/' ∉ name.toList) :
    (entryPath d name).place = (Path.Step.ofSegment name).toList.foldl Place.move d.place := by
  unfold entryPath
  split
  · rename_i here
    have start : d.place = ⟨false, 0, []⟩ := by
      unfold Path.place
      rw [here]
      rfl
    rw [start]
    exact Path.place_single single
  · exact Path.place_child d single

theorem below_entryPath (d : Path) {name : String} (single : '/' ∉ name.toList)
    (level : name ≠ "..") : d.place.Below (entryPath d name).place := by
  rw [place_entryPath d single]
  exact d.place.below_segment single level

theorem below_child (d : Path) {name : String} (single : '/' ∉ name.toList)
    (level : name ≠ "..") : d.place.Below (d.child name).place := by
  rw [Path.place_child d single]
  exact d.place.below_segment single level

theorem below_wayPath (d : Path) {way : List String}
    (proper : ∀ name ∈ way, '/' ∉ name.toList ∧ name ≠ "..") :
    d.place.Below (wayPath d way).place := by
  have children : ∀ (names : List String) (base : Path),
      (∀ name ∈ names, '/' ∉ name.toList ∧ name ≠ "..") →
        base.place.Below (names.foldl Path.child base).place := by
    intro names
    induction names with
    | nil => exact fun base _ => .refl base.place
    | cons name names inductionHypothesis =>
        intro base proper
        rcases proper name List.mem_cons_self with ⟨single, level⟩
        exact (below_child base single level).trans
          (inductionHypothesis _ (fun other later => proper other (List.mem_cons_of_mem _ later)))
  cases way with
  | nil => exact .refl d.place
  | cons name rest =>
      rcases proper name List.mem_cons_self with ⟨single, level⟩
      exact (below_entryPath d single level).trans
        (children rest _ (fun other later => proper other (List.mem_cons_of_mem _ later)))

section Search

variable {t : FileTree} {directoriesOnly : Bool} {d path : Path}

theorem proper_of_mem_waysBelow {way : List String} (listed : way ∈ waysBelow t d) :
    ∀ name ∈ way, '/' ∉ name.toList ∧ name ≠ ".." := by
  intro name inside
  unfold waysBelow at listed
  split at listed
  · rcases FileTree.mem_below_iff.mp listed with ⟨_, present⟩
    rcases FileTree.proper_of_isName (FileTree.isName_of_mem present inside) with
      ⟨_, _, level, single, _⟩
    exact ⟨single, level⟩
  · cases listed

theorem Found.place_below {components : List Component}
    (found : Found t directoriesOnly components d path)
    (level : ∀ component ∈ components, component.Level) : d.place.Below path.place := by
  induction found with
  | here => exact .refl _
  | @plain name rest d path _ _ inductionHypothesis =>
      rcases List.forall_mem_cons.mp level with ⟨⟨single, notUp⟩, others⟩
      exact (below_entryPath d single notUp).trans (inductionHypothesis others)
  | @special tokens name rest d path _ taken _ inductionHypothesis =>
      rcases List.forall_mem_cons.mp level with ⟨ordinary, others⟩
      have dots : name = ".." ∨ name = "." := by
        unfold specialNames at taken
        split at taken
        · simpa using (List.mem_filter.mp taken).1
        · cases taken
      rcases dots with rfl | rfl
      · exact absurd taken ordinary
      · exact (below_child d (by decide) (by decide)).trans (inductionHypothesis others)
  | @listed tokens name rest d path _ listed _ _ inductionHypothesis =>
      rcases List.forall_mem_cons.mp level with ⟨_, others⟩
      rcases isName_of_mem_namesAt listed with ⟨single, moves⟩
      have notUp : name ≠ ".." := by
        rintro rfl
        cases moves
      exact (below_entryPath d single notUp).trans (inductionHypothesis others)
  | @depth way d _ listed _ => exact below_wayPath d (proper_of_mem_waysBelow listed)
  | @deeper component rest way d path _ listed _ _ inductionHypothesis =>
      rcases List.forall_mem_cons.mp (List.forall_mem_cons.mp level).2 with ⟨_, others⟩
      exact (below_wayPath d (proper_of_mem_waysBelow listed)).trans (inductionHypothesis others)

end Search

/-! ## Components of a pattern behind the root -/

/-- Whether a text that is a component of a pattern takes the name of the directory above. -/
def climbs (text : String) : Bool :=
  match tokens text with
  | .ok read => (specialNames read).contains ".."
  | .error _ => false

/-- What reads as characters that stand for themselves is these characters. -/
theorem eq_of_tokensFrom_exactly {position : Nat} {previous : Option Char} {text name : List Char}
    (valid : tokensFrom position previous text = .ok (name.map Token.exactly)) : text = name := by
  have first : ∀ {token : Token} {later : List Token} {name : List Char},
      (Except.ok (token :: later) : Except Fault (List Token)) = .ok (name.map Token.exactly) →
        ∃ c others, name = c :: others ∧ token = .exactly c ∧ later = others.map Token.exactly := by
    intro token later name same
    rcases List.map_eq_cons_iff.mp (Except.ok.inj same).symm with ⟨c, others, whole, own, behind⟩
    exact ⟨c, others, whole, own.symm, behind.symm⟩
  fun_induction tokensFrom position previous text generalizing name with
  | case1 => exact (List.map_eq_nil_iff.mp (Except.ok.inj valid).symm).symm
  | case2 | case6 | case9 =>
      rcases bind_eq_ok_iff.mp valid with ⟨later, _, same⟩
      rcases first same with ⟨_, _, _, impossible, _⟩
      cases impossible
  | case3 | case5 | case7 | case8 | case10 => cases valid
  | case4 =>
      rcases first valid with ⟨_, _, _, impossible, _⟩
      cases impossible
  | case11 _ _ _ negated _ _ _ _ parts token =>
      rcases bind_eq_ok_iff.mp valid with ⟨later, _, same⟩
      rcases first same with ⟨_, _, _, impossible, _⟩
      simp only [token] at impossible
      split at impossible <;> cases impossible
  | case12 _ _ c rest _ _ _ _ _ _ inductionHypothesis =>
      rcases bind_eq_ok_iff.mp valid with ⟨later, read, same⟩
      rcases first same with ⟨_, others, rfl, own, rfl⟩
      cases own
      rw [inductionHypothesis read]

theorem plainText?_eq_some {read : List Token} {name : List Char}
    (plain : Component.plainText? read = some name) : read = name.map Token.exactly := by
  induction read generalizing name with
  | nil =>
      cases plain
      rfl
  | cons token rest inductionHypothesis =>
      cases token with
      | exactly c =>
          rcases Option.map_eq_some_iff.mp plain with ⟨others, own, rfl⟩
          rw [inductionHypothesis own]
          rfl
      | _ => cases plain

/-- A component that does not take the name of the directory above leads no further up. -/
theorem level_ofTokens {text : String} {read : List Token} (single : '/' ∉ text.toList)
    (level : climbs text = false) (valid : tokens text = .ok read) :
    (Component.ofTokens read).Level := by
  have notUp : ".." ∉ specialNames read := by
    unfold climbs at level
    rw [valid] at level
    simpa using level
  unfold Component.ofTokens
  split
  · exact trivial
  · split
    · rename_i name plain
      have own := plainText?_eq_some plain
      rw [own] at valid
      have whole : text = String.ofList name := by
        rw [← eq_of_tokensFrom_exactly valid, String.ofList_toList]
      rw [← whole]
      refine ⟨single, ?_⟩
      rintro rfl
      rw [own, ← eq_of_tokensFrom_exactly valid] at notUp
      exact notUp (by decide)
    · exact notUp

theorem collapsed_plain_append (names : List String) (rest : List Component) :
    Component.collapsed (names.map Component.plain ++ rest) =
      names.map Component.plain ++ Component.collapsed rest := by
  induction names with
  | nil => rfl
  | cons name names inductionHypothesis =>
      rw [List.map_cons, List.cons_append, Component.collapsed, inductionHypothesis]
      · rfl
      · intro _ impossible
        cases impossible

theorem mem_of_mem_collapsed {components : List Component} {component : Component}
    (listed : component ∈ Component.collapsed components) : component ∈ components := by
  fun_induction Component.collapsed components with
  | case1 rest inductionHypothesis => exact List.mem_cons_of_mem _ (inductionHypothesis listed)
  | case2 first rest _ inductionHypothesis =>
      rcases List.mem_cons.mp listed with own | later
      · rw [own]
        exact List.mem_cons_self
      · exact List.mem_cons_of_mem _ (inductionHypothesis later)
  | case3 => cases listed

theorem startsWith_slash (text : String) :
    Text.startsWith "/" text = (⟨text⟩ : Path).isAbsolute := by
  unfold Text.startsWith Path.isAbsolute
  have slash : "/".toList = ['/'] := rfl
  rw [slash]
  cases text.toList with
  | nil => rfl
  | cons c rest =>
      rw [List.isPrefixOf_cons_cons, List.isPrefixOf_nil_left, Bool.and_true, List.head?_cons,
        Bool.eq_iff_iff, beq_iff_eq, beq_iff_eq, Option.some.injEq]
      exact eq_comm

theorem place_start (rooted : Bool) :
    (if rooted then (⟨"/"⟩ : Path) else ⟨"."⟩).place = ⟨rooted, 0, []⟩ := by
  cases rooted with
  | true => decide
  | false => decide

/-- Only a last slash is left out where a text is cut into components. -/
theorem components_append {text pattern : String} {front : List String}
    (cut : Text.pieces '/' text = front ++ Text.pieces '/' pattern) :
    ∃ behind, (if text = "" then [""]
        else match (Text.pieces '/' text).reverse with
          | "" :: rest => rest.reverse
          | all => all.reverse) = front ++ behind ∧
      ∀ piece ∈ behind, piece ∈ Text.pieces '/' pattern := by
  by_cases vacant : text = ""
  · refine ⟨Text.pieces '/' pattern, ?_, fun _ listed => listed⟩
    rw [if_pos vacant, ← cut, vacant]
    rfl
  · rw [if_neg vacant, cut]
    rcases List.eq_nil_or_concat (Text.pieces '/' pattern) with none | ⟨early, last, whole⟩
    · exact absurd none (Text.pieces_ne_nil '/' pattern)
    · rw [whole, List.concat_eq_append, ← List.append_assoc, List.reverse_concat]
      split
      · rename_i same
        cases same
        refine ⟨early, List.reverse_reverse _, fun piece listed => ?_⟩
        exact List.mem_append_left _ listed
      · refine ⟨early ++ [last], ?_, fun _ listed => listed⟩
        rw [List.reverse_cons, List.reverse_reverse, List.append_assoc]

section Reading

variable {root : Path} {pattern : String}

/-- The components of a pattern behind a root are names that lead to the root, and components
of the pattern. -/
theorem componentTexts_join (relative : (⟨pattern⟩ : Path).isAbsolute = false) :
    ∃ names behind, Query.componentTexts (root.join ⟨pattern⟩).text = names ++ behind ∧
      (∀ name ∈ names, name ∈ Text.pieces '/' root.text) ∧
      (∀ text ∈ behind, text ∈ Text.pieces '/' pattern) ∧
      (names.filterMap Path.Step.ofSegment).foldl Place.move
        ⟨(root.join ⟨pattern⟩).isAbsolute, 0, []⟩ = root.place := by
  unfold Query.componentTexts
  rw [startsWith_slash]
  by_cases written : root.text = ""
  · have alone : root.join ⟨pattern⟩ = ⟨pattern⟩ := by
      unfold Path.join
      rw [relative]
      simp [written]
    have vacant : root = ⟨""⟩ := congrArg Path.mk written
    rw [alone]
    simp only [relative, Bool.false_eq_true, if_false]
    rcases components_append (List.nil_append (Text.pieces '/' pattern)).symm with
      ⟨behind, same, own⟩
    refine ⟨[], behind, same, nofun, own, ?_⟩
    rw [vacant]
    rfl
  have cut := Path.pieces_child written relative
  have starts := Path.isAbsolute_child written relative
  have way : ∀ segment ∈ root.way, segment ∈ Text.pieces '/' root.text := by
    intro segment listed
    rcases Path.pieces_eq_way root with same | closed
    · rw [same]
      exact listed
    · rw [closed]
      exact List.mem_append_left _ listed
  have place := Path.place_eq_of_way root
  change Text.pieces '/' (root.join ⟨pattern⟩).text = _ at cut
  change (root.join ⟨pattern⟩).isAbsolute = _ at starts
  cases rooted : root.isAbsolute with
  | false =>
      rw [rooted] at starts place
      simp only [starts, Bool.false_eq_true, if_false]
      rcases components_append cut with ⟨behind, same, own⟩
      exact ⟨root.way, behind, same, way, own, place.symm⟩
  | true =>
      rw [rooted] at starts place
      -- The slash in front ends the empty first segment of the root.
      rcases Path.text_of_isAbsolute starts with ⟨rest, whole⟩
      have behindSlash : Text.pieces '/' (root.join ⟨pattern⟩).text =
          "" :: Text.pieces '/' rest := by
        rw [whole, Path.pieces_slash]
      have dropped : String.ofList ((root.join ⟨pattern⟩).text.toList.drop 1) = rest := by
        rw [whole, String.toList_append]
        exact String.ofList_toList
      rcases List.exists_cons_of_ne_nil (Path.way_ne_nil written) with ⟨first, names, wayCons⟩
      rw [wayCons] at way place
      rw [behindSlash, wayCons, List.cons_append] at cut
      rcases List.cons.inj cut with ⟨rfl, inside⟩
      simp only [starts, if_true, dropped]
      rcases components_append inside with ⟨behind, same, own⟩
      exact ⟨names, behind, same, fun name listed => way name (List.mem_cons_of_mem _ listed), own,
        place.symm⟩

/-- A pattern behind a root that means nothing in a pattern is searched for by the names that
lead to the root, and then by the components of the pattern. -/
theorem read_join (literal : ∀ c ∈ root.text.toList, isSpecial c = false)
    (relative : (⟨pattern⟩ : Path).isAbsolute = false) {query : Query}
    (valid : Query.read (root.join ⟨pattern⟩).text = .ok query) :
    ∃ (names : List String) (components : List Component),
      query.components = names.map Component.plain ++ components ∧
      (∀ name ∈ names, '/' ∉ name.toList) ∧
      (names.filterMap Path.Step.ofSegment).foldl Place.move query.start.place = root.place ∧
      ∀ component ∈ components, ∃ text ∈ Text.pieces '/' pattern, ∃ read,
        tokens text = .ok read ∧ component = Component.ofTokens read := by
  rcases @componentTexts_join root pattern relative with ⟨names, behind, cut, front, own, place⟩
  have plain : ∀ name ∈ names, ∀ c ∈ name.toList, isSpecial c = false :=
    fun name listed c inside => literal c (Text.mem_of_mem_pieces (front name listed) inside)
  unfold Query.read at valid
  rcases bind_eq_ok_iff.mp valid with ⟨_, _, valid⟩
  rcases bind_eq_ok_iff.mp valid with ⟨all, each, same⟩
  cases Except.ok.inj same
  rw [cut, List.mapM_append, mapM_of_ok (fun name listed => tokens_of_plain (plain name listed))]
    at each
  rcases bind_eq_ok_iff.mp each with ⟨_, known, others⟩
  cases Except.ok.inj known
  rcases bind_eq_ok_iff.mp others with ⟨later, read, whole⟩
  cases Except.ok.inj whole
  refine ⟨names, Component.collapsed (later.map Component.ofTokens), ?_, ?_, ?_, ?_⟩
  · rw [List.map_append, List.map_map]
    have alike : names.map (Component.ofTokens ∘ fun name => name.toList.map Token.exactly) =
        names.map Component.plain :=
      List.map_congr_left (fun name _ => ofTokens_plain name)
    rw [alike]
    exact collapsed_plain_append names _
  · exact fun name listed => Text.notMem_of_mem_pieces (front name listed)
  · simp only [startsWith_slash, place_start]
    exact place
  · intro component listed
    rcases List.mem_map.mp (mem_of_mem_collapsed listed) with ⟨taken, inside, rfl⟩
    rcases exists_of_mem_mapM read inside with ⟨text, listed, valid⟩
    exact ⟨text, own text listed, taken, valid, rfl⟩

end Reading

/-! ## The search behind the root -/

theorem Found.of_plain {t : FileTree} {directoriesOnly : Bool} {names : List String}
    {rest : List Component} {d path : Path}
    (found : Found t directoriesOnly (names.map Component.plain ++ rest) d path) :
    Found t directoriesOnly rest (names.foldl entryPath d) path := by
  induction names generalizing d with
  | nil => exact found
  | cons name names inductionHypothesis =>
      cases found with
      | plain _ behind => exact inductionHypothesis behind

theorem place_foldl_entryPath {names : List String} (single : ∀ name ∈ names, '/' ∉ name.toList)
    (d : Path) : (names.foldl entryPath d).place =
      (names.filterMap Path.Step.ofSegment).foldl Place.move d.place := by
  induction names generalizing d with
  | nil => rfl
  | cons name names inductionHypothesis =>
      rw [List.foldl_cons, inductionHypothesis
        (fun other later => single other (List.mem_cons_of_mem _ later)),
        place_entryPath d (single name List.mem_cons_self)]
      exact (Place.moves_cons d.place name names).symm

/-- Whatever fits a pattern behind the root has its place below that of the root. -/
theorem place_below_of_matches {t : FileTree} {root path : Path} {pattern : String}
    (literal : ∀ c ∈ root.text.toList, isSpecial c = false)
    (relative : (⟨pattern⟩ : Path).isAbsolute = false)
    (level : ∀ text ∈ Text.pieces '/' pattern, climbs text = false)
    (fitting : Matches t (root.join ⟨pattern⟩).text path) : root.place.Below path.place := by
  rcases fitting with ⟨query, valid, found⟩
  rcases read_join literal relative valid with ⟨names, components, split, single, place, own⟩
  rw [split] at found
  rw [← place, ← place_foldl_entryPath single]
  refine found.of_plain.place_below ?_
  intro component listed
  rcases own component listed with ⟨text, inside, read, valid, rfl⟩
  exact level_ofTokens (Text.notMem_of_mem_pieces inside) (level text inside) valid

end Glob

/-! ## Removing behind the root -/

namespace Host

open Glob (climbs isSpecial)

theorem succeeds_removeMatching_iff {root : Path} {pattern : String} {h h' : Host} {count : Nat} :
    (removeMatching root pattern).Succeeds h count h' ↔
      ∃ t', (Glob.removeMatching (root.join ⟨pattern⟩).text :
          Action Misconfiguration FileTree Nat).Succeeds h.tree count t' ∧
        h' = { h with tree := t' } :=
  Action.succeeds_onPart_iff

/-- A removal behind the root takes only files below the place of the root, as long as no
character of the root means anything in a pattern and no component of the pattern takes the
name of the directory above.  Everything else stays, and so does the profile. -/
theorem removal_contained {root : Path} {pattern : String}
    (literal : ∀ c ∈ root.text.toList, isSpecial c = false)
    (relative : (⟨pattern⟩ : Path).isAbsolute = false)
    (level : ∀ text ∈ Text.pieces '/' pattern, climbs text = false) (h : Host) :
    ∃ count t', (removeMatching root pattern).Succeeds h count { h with tree := t' } ∧
      h.tree.Thinned t' ∧
      ∀ location, ¬ h.tree.locationOf root.place <+: location →
        t'.entryAt location = h.tree.entryAt location := by
  rcases @Glob.removeMatching_succeeds Misconfiguration (root.join ⟨pattern⟩).text h.tree with
    ⟨t', without, run⟩
  refine ⟨_, t', succeeds_removeMatching_iff.mpr ⟨t', run, rfl⟩, without.thinned, ?_⟩
  intro location outside
  apply without.kept
  rintro ⟨_, path, fitting, located⟩
  apply outside
  rw [FileTree.eq_locationOf_of_locate located]
  exact h.tree.locationOf_prefix
    (Glob.place_below_of_matches literal relative level fitting)

/-- Two directories, the name of one of which is a pattern for both. -/
def twinTree : FileTree :=
  let made := (FileTree.empty.makeDirectories? [] ["w", "a*"]).bind
    (fun t => t.makeDirectories? [] ["w", "ab"])
  let filled := made.bind (fun t => (t.put? ["w", "a*", "x.o"] (.file [] false)).bind
    (fun t => t.put? ["w", "ab", "y.o"] (.file [] false)))
  filled.getD FileTree.empty

theorem literal_twin : ∀ c ∈ (⟨"/w/ab"⟩ : Path).text.toList, isSpecial c = false := by
  have none : "/w/ab".toList.any isSpecial = false := by decide
  intro c inside
  simpa using List.any_eq_false.mp none c inside

/-- A removal in one of them leaves the file of the other alone. -/
theorem removal_contained_twin :
    ∃ count t', (removeMatching ⟨"/w/ab"⟩ "*.o").Succeeds ⟨twinTree, Profile.plain⟩ count
        ⟨t', Profile.plain⟩ ∧ t'.entryAt ["w", "a*", "x.o"] = some (.file [] false) := by
  have level : ∀ text ∈ Text.pieces '/' "*.o", climbs text = false := by
    have single : '/' ∉ "*.o".toList := by decide
    have read : Glob.tokens "*.o" = .ok [.anySequence, .exactly '.', .exactly 'o'] := by cbv
    intro text listed
    rw [Text.pieces_of_notMem single] at listed
    rw [List.mem_singleton.mp listed]
    unfold climbs
    rw [read]
    rfl
  rcases @removal_contained ⟨"/w/ab"⟩ "*.o" literal_twin (by decide) level
    ⟨twinTree, Profile.plain⟩ with ⟨count, t', run, _, stays⟩
  refine ⟨count, t', run, ?_⟩
  rw [stays ["w", "a*", "x.o"] (by decide)]
  rfl

/-- A file that a fitting path denotes is lost. -/
theorem exists_succeeds_lost {root path : Path} {pattern : String} {h : Host}
    {location : Location} (fitting : Glob.Matches h.tree (root.join ⟨pattern⟩).text path)
    (located : h.tree.locate path = .ok location) (file : h.tree.holdsFile location = true) :
    ∃ count t', (removeMatching root pattern).Succeeds h count { h with tree := t' } ∧
      t'.entryAt location = none := by
  rcases @Glob.removeMatching_succeeds Misconfiguration (root.join ⟨pattern⟩).text h.tree with
    ⟨t', without, run⟩
  exact ⟨_, t', succeeds_removeMatching_iff.mpr ⟨t', run, rfl⟩,
    without.gone location file ⟨path, fitting, located⟩⟩

/-- Behind a root whose name is a pattern, the files of other directories are lost. -/
theorem not_forall_contained :
    ¬ ∀ (root : Path) (pattern : String) (h h' : Host) (count : Nat),
      (⟨pattern⟩ : Path).isAbsolute = false → ".." ∉ Text.pieces '/' pattern →
      (removeMatching root pattern).Succeeds h count h' →
      ∀ location, ¬ h.tree.locationOf root.place <+: location →
        h'.tree.entryAt location = h.tree.entryAt location := by
  intro contained
  have read : Glob.Query.read "/w/a*/*.o" = .ok ⟨⟨"/"⟩, [.plain "w",
      .wild [.exactly 'a', .anySequence], .wild [.anySequence, .exactly '.', .exactly 'o']],
      false⟩ := by cbv
  have file := @Glob.Found.listed twinTree false [.anySequence, .exactly '.', .exactly 'o']
    "y.o" [] ⟨"/w/ab"⟩ ⟨"/w/ab/y.o"⟩ (by decide) (by decide) (Glob.fits_iff.mp (by decide))
    (.anything _ _)
  have directory := @Glob.Found.listed twinTree false [.exactly 'a', .anySequence] "ab" _ ⟨"/w"⟩ _
    (by decide) (by decide) (Glob.fits_iff.mp (by decide)) file
  have found := @Glob.Found.plain twinTree false "w" _ ⟨"/"⟩ _ (by decide) directory
  rcases @exists_succeeds_lost ⟨"/w/a*"⟩ _ "*.o" ⟨twinTree, Profile.plain⟩ ["w", "ab", "y.o"]
    ⟨_, read, found⟩ (by rfl) (by rfl) with ⟨count, t', run, lost⟩
  have stays := contained _ _ _ _ _ (by decide) (by decide) run ["w", "ab", "y.o"] (by decide)
  rw [lost] at stays
  cases stays

/-- A component with a dot in front takes `..` as well, and leads out of any root. -/
theorem not_forall_contained_of_literal :
    ¬ ∀ (root : Path) (pattern : String) (h h' : Host) (count : Nat),
      (∀ c ∈ root.text.toList, isSpecial c = false) →
      (⟨pattern⟩ : Path).isAbsolute = false → ".." ∉ Text.pieces '/' pattern →
      (removeMatching root pattern).Succeeds h count h' →
      ∀ location, ¬ h.tree.locationOf root.place <+: location →
        h'.tree.entryAt location = h.tree.entryAt location := by
  intro contained
  have read : Glob.Query.read "/w/ab/.*/*/*.o" = .ok ⟨⟨"/"⟩, [.plain "w", .plain "ab",
      .wild [.exactly '.', .anySequence], .wild [.anySequence],
      .wild [.anySequence, .exactly '.', .exactly 'o']], false⟩ := by cbv
  have file := @Glob.Found.listed twinTree false [.anySequence, .exactly '.', .exactly 'o']
    "x.o" [] ⟨"/w/ab/../a*"⟩ ⟨"/w/ab/../a*/x.o"⟩ (by decide) (by decide)
    (Glob.fits_iff.mp (by decide)) (.anything _ _)
  have directory := @Glob.Found.listed twinTree false [.anySequence] "a*" _ ⟨"/w/ab/.."⟩ _
    (by decide) (by decide) (Glob.fits_iff.mp (by decide)) file
  have above := @Glob.Found.special twinTree false [.exactly '.', .anySequence] ".." _ ⟨"/w/ab"⟩ _
    (by decide) (by decide) directory
  have found := @Glob.Found.plain twinTree false "w" _ ⟨"/"⟩ _ (by decide)
    (@Glob.Found.plain twinTree false "ab" _ ⟨"/w"⟩ _ (by decide) above)
  rcases @exists_succeeds_lost ⟨"/w/ab"⟩ _ ".*/*/*.o" ⟨twinTree, Profile.plain⟩
    ["w", "a*", "x.o"] ⟨_, read, found⟩ (by rfl) (by rfl) with ⟨count, t', run, lost⟩
  have stays := contained _ _ _ _ _ literal_twin (by decide) (by decide) run ["w", "a*", "x.o"]
    (by decide)
  rw [lost] at stays
  cases stays

end Host
end HostLink
