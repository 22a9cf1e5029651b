import HostLink.Glob.Expansion
import HostLink.Proofs.FileTree.Removal

namespace HostLink
namespace Glob

/-!
# What a search finds

The search for the paths that fit a pattern is a function that lists them.  Beside it stands a
relation with one rule for each way in which a component of a pattern leads on, and the function
lists exactly what can be derived by these rules.  Facts about what is found are proved by
induction over them.

A tree from which files were taken has nothing new to find.
-/

/-- A path fits the components of a pattern if they lead to it from a directory on. -/
inductive Found (t : FileTree) (directoriesOnly : Bool) : List Component → Path → Path → Prop
  | here {path : Path} (kind : directoriesOnly = true → t.isDirectory path = true) :
      Found t directoriesOnly [] path path
  | plain {name : String} {rest : List Component} {d path : Path}
      (leads : leadsOn t d name = true)
      (behind : Found t directoriesOnly rest (entryPath d name) path) :
      Found t directoriesOnly (.plain name :: rest) d path
  /-- Only the special names lead elsewhere than into what the directory lists. -/
  | special {tokens : List Token} {name : String} {rest : List Component} {d path : Path}
      (directory : t.isDirectory d = true) (taken : name ∈ specialNames tokens)
      (behind : Found t directoriesOnly rest (d.child name) path) :
      Found t directoriesOnly (.wild tokens :: rest) d path
  | listed {tokens : List Token} {name : String} {rest : List Component} {d path : Path}
      (directory : t.isDirectory d = true) (listed : name ∈ namesAt t d)
      (fitting : Fits tokens name.toList)
      (behind : Found t directoriesOnly rest (entryPath d name) path) :
      Found t directoriesOnly (.wild tokens :: rest) d path
  | depth {way : List String} {d : Path} (directory : t.isDirectory d = true)
      (listed : way ∈ waysBelow t d) (ends : t.isDirectory (wayPath d way) = true) :
      Found t directoriesOnly [.anyDepth] d (wayPath d way)
  | deeper {component : Component} {rest : List Component} {way : List String} {d path : Path}
      (directory : t.isDirectory d = true) (listed : way ∈ waysBelow t d)
      (fitting : way.getLast?.any component.fitsName = true)
      (behind : Found t directoriesOnly rest (wayPath d way) path) :
      Found t directoriesOnly (.anyDepth :: component :: rest) d path

section Search

variable {t : FileTree} {directoriesOnly : Bool} {components : List Component} {d path : Path}

theorem found_of_mem_search (member : path ∈ search t directoriesOnly components d) :
    Found t directoriesOnly components d path := by
  fun_induction search t directoriesOnly components d with
  | case1 here missing => cases member
  | case2 here kind =>
      cases List.mem_singleton.mp member
      refine .here (fun only => ?_)
      simpa [only] using kind
  | case3 name rest d leads inductionHypothesis => exact .plain leads (inductionHypothesis member)
  | case4 name rest d astray => cases member
  | case5 tokens rest d directory special listed =>
      rcases List.mem_append.mp member with front | behind
      · rcases List.mem_flatMap.mp front with ⟨name, taken, later⟩
        exact .special directory taken (special name later)
      · rcases List.mem_flatMap.mp behind with ⟨name, kept, later⟩
        rcases List.mem_filter.mp kept with ⟨own, fitting⟩
        exact .listed directory own (fits_iff.mp fitting) (listed name later)
  | case6 tokens rest d elsewhere => cases member
  | case7 d directory =>
      rcases List.mem_filter.mp member with ⟨reached, ends⟩
      rcases List.mem_map.mp reached with ⟨way, listed, rfl⟩
      exact .depth directory listed ends
  | case8 d elsewhere => cases member
  | case9 component rest d directory inductionHypothesis =>
      rcases List.mem_flatMap.mp member with ⟨way, kept, later⟩
      rcases List.mem_filter.mp kept with ⟨listed, fitting⟩
      exact .deeper directory listed fitting (inductionHypothesis way later)
  | case10 component rest d elsewhere => cases member

theorem Found.mem_search (found : Found t directoriesOnly components d path) :
    path ∈ search t directoriesOnly components d := by
  induction found with
  | @here path kind =>
      rw [search, if_neg]
      · exact List.mem_singleton_self path
      · rw [Bool.and_eq_true, Bool.not_eq_true']
        rintro ⟨only, missing⟩
        rw [kind only] at missing
        cases missing
  | plain leads _ inductionHypothesis =>
      rw [search, if_pos leads]
      exact inductionHypothesis
  | @special tokens name rest d path directory taken _ inductionHypothesis =>
      rw [search, if_pos directory]
      exact List.mem_append_left _ (List.mem_flatMap.mpr ⟨name, taken, inductionHypothesis⟩)
  | @listed tokens name rest d path directory listed fitting _ inductionHypothesis =>
      have kept : name ∈ (namesAt t d).filter (fun other => fits tokens other.toList) :=
        List.mem_filter.mpr ⟨listed, fits_iff.mpr fitting⟩
      rw [search, if_pos directory]
      exact List.mem_append_right _ (List.mem_flatMap.mpr ⟨name, kept, inductionHypothesis⟩)
  | @depth way d directory listed ends =>
      rw [search, if_pos directory]
      exact List.mem_filter.mpr ⟨List.mem_map.mpr ⟨way, listed, rfl⟩, ends⟩
  | @deeper component rest way d path directory listed fitting _ inductionHypothesis =>
      rw [search, if_pos directory]
      exact List.mem_flatMap.mpr
        ⟨way, List.mem_filter.mpr ⟨listed, fitting⟩, inductionHypothesis⟩

/-- The search lists what can be found, and nothing else. -/
theorem mem_search_iff :
    path ∈ search t directoriesOnly components d ↔ Found t directoriesOnly components d path :=
  ⟨found_of_mem_search, Found.mem_search⟩

end Search

/-- A path that fits a pattern in a tree. -/
def Matches (t : FileTree) (pattern : String) (path : Path) : Prop :=
  ∃ query, Query.read pattern = .ok query ∧
    Found t query.directoriesOnly query.components query.start path

theorem mem_paths_iff {t : FileTree} {pattern : String} {found : List Path}
    (read : paths t pattern = .ok found) {path : Path} :
    path ∈ found ↔ Matches t pattern path := by
  unfold paths at read
  unfold Matches
  cases valid : Query.read pattern with
  | error fault =>
      rw [valid] at read
      cases read
  | ok query =>
      rw [valid] at read
      cases Except.ok.inj read
      unfold Path.sort
      rw [List.mem_mergeSort, mem_search_iff]
      constructor
      · exact fun found => ⟨query, rfl, found⟩
      · rintro ⟨other, same, found⟩
        cases same
        exact found

/-- A pattern is searched for in every tree or in none. -/
theorem paths_eq_error_iff {t : FileTree} {pattern : String} :
    (∃ e, paths t pattern = .error e) ↔ ∃ fault, Query.read pattern = .error fault := by
  unfold paths
  cases Query.read pattern with
  | error fault => exact iff_of_true ⟨_, rfl⟩ ⟨_, rfl⟩
  | ok query =>
      constructor
      · rintro ⟨_, impossible⟩
        cases impossible
      · rintro ⟨_, impossible⟩
        cases impossible

theorem Found.anything (t : FileTree) (path : Path) : Found t false [] path path :=
  .here nofun

/-! ## Nothing new in a thinned tree -/

section Thinned

open FileTree (Thinned)

variable {t t' : FileTree} {d : Path}

theorem leadsOn_of_thinned (thinned : Thinned t t') {name : String}
    (leads : leadsOn t' d name = true) : leadsOn t d name = true := by
  unfold leadsOn at leads ⊢
  split at leads
  · rename_i special
    rw [if_pos special]
    exact thinned.isDirectory_iff.mp leads
  · rename_i ordinary
    rw [if_neg ordinary]
    exact thinned.present_of_present leads

theorem mem_namesAt_of_thinned (thinned : Thinned t t') {name : String}
    (listed : name ∈ namesAt t' d) : name ∈ namesAt t d := by
  unfold namesAt at listed ⊢
  cases located : t'.locate d with
  | error cause =>
      rw [located] at listed
      cases listed
  | ok location =>
      rw [located] at listed
      rw [(thinned.locate_eq_ok_iff.mp located).1]
      exact thinned.mem_names listed

theorem mem_waysBelow_of_thinned (thinned : Thinned t t') {way : List String}
    (listed : way ∈ waysBelow t' d) : way ∈ waysBelow t d := by
  unfold waysBelow at listed ⊢
  cases located : t'.locate d with
  | error cause =>
      rw [located] at listed
      cases listed
  | ok location =>
      rw [located] at listed
      rw [(thinned.locate_eq_ok_iff.mp located).1]
      exact thinned.mem_below listed

theorem Found.of_thinned (thinned : Thinned t t') {directoriesOnly : Bool}
    {components : List Component} {path : Path}
    (found : Found t' directoriesOnly components d path) :
    Found t directoriesOnly components d path := by
  induction found with
  | here kind => exact .here (fun only => thinned.isDirectory_iff.mp (kind only))
  | plain leads _ inductionHypothesis =>
      exact .plain (leadsOn_of_thinned thinned leads) inductionHypothesis
  | special directory taken _ inductionHypothesis =>
      exact .special (thinned.isDirectory_iff.mp directory) taken inductionHypothesis
  | listed directory listed fitting _ inductionHypothesis =>
      exact .listed (thinned.isDirectory_iff.mp directory)
        (mem_namesAt_of_thinned thinned listed) fitting inductionHypothesis
  | depth directory listed ends =>
      exact .depth (thinned.isDirectory_iff.mp directory)
        (mem_waysBelow_of_thinned thinned listed) (thinned.isDirectory_iff.mp ends)
  | deeper directory listed fitting _ inductionHypothesis =>
      exact .deeper (thinned.isDirectory_iff.mp directory)
        (mem_waysBelow_of_thinned thinned listed) fitting inductionHypothesis

theorem Matches.of_thinned (thinned : Thinned t t') {pattern : String} {path : Path}
    (fitting : Matches t' pattern path) : Matches t pattern path := by
  rcases fitting with ⟨query, read, found⟩
  exact ⟨query, read, found.of_thinned thinned⟩

end Thinned

end Glob
end HostLink
