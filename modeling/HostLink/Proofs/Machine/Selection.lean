import HostLink.Project
import HostLink.Proofs.Machine.Listing

namespace HostLink

/-!
# The selected machine in the list

A list of machines marks the one that would be used.  List and choice get there in different
ways: the list lays the machine files over the built-in machines, and the choice looks names
up one after another.  `Origin` says where a chosen machine can come from.  Only the last case,
the machine that is used when nothing else fits, does not look for a file, so a file
`default.toml` is then listed and marked without being used.
-/

namespace Catalogue

variable {σ : Type} {t : FileTree} {d : Path} {env : Environment} {m : Machine}

/-- Where a chosen machine comes from. -/
inductive Origin (t : FileTree) (d : Path) (m : Machine) : Prop where
  /-- It was loaded from the file of its name. -/
  | file (x : MachineSummary) (described : described? t d m.id = some x)
      (source : m.source = x.source) : Origin t d m
  /-- It is built in, and there is no file of its name. -/
  | builtIn (noFile : described? t d m.id = none)
      (registered : (usual.registered? m.id).isSome = true) (source : m.source = .builtIn) :
      Origin t d m
  /-- It is the machine that fits everywhere. -/
  | fallback (named : m.id = fallbackId) (source : m.source = .builtIn) : Origin t d m

/-- The built-in machines have the names under which they are registered. -/
theorem spec_of_find?_usual {id : String} (found : usual.find? env id = some m) :
    m.id = id ∧ m.source = .builtIn ∧ (usual.registered? id).isSome = true := by
  rcases Option.map_eq_some_iff.mp found with ⟨entry, bound, made⟩
  have registered : (usual.registered? id).isSome = true := by
    unfold registered?
    rw [bound]
    rfl
  have listed := (OrderedMap.find?_eq_some_iff _).mp bound
  have all : ∀ x ∈ usual.entries.entries, (x.2.make env).id = x.1 ∧
      (x.2.make env).source = .builtIn := by
    intro x member
    change x ∈ [("debian", _), ("default", _), ("ubuntu", _)] at member
    rcases List.mem_cons.mp member with same | member
    · rw [same]
      exact ⟨rfl, rfl⟩
    · rcases List.mem_cons.mp member with same | member
      · rw [same]
        exact ⟨rfl, rfl⟩
      · rw [List.mem_singleton.mp member]
        exact ⟨rfl, rfl⟩
  rcases all _ listed with ⟨named, source⟩
  rw [← made]
  exact ⟨named, source, registered⟩

theorem origin_fallback (env : Environment) : Origin t d (usual.fallback env) :=
  .fallback rfl rfl

/-- A file is loaded under the name that led to it. -/
theorem origin_of_loadMachine {id : String} {path : Path}
    (existing : existingFile? t (some d) id = some path) (loaded : loadMachine t path id = .ok m) :
    Origin t d m := by
  unfold loadMachine at loaded
  cases read : MachineDescription.load t path with
  | error cause =>
      rw [read] at loaded
      cases loaded
  | ok description =>
      rw [read] at loaded
      cases loaded
      have described : described? t d id =
          some ⟨id, description.summary.getD "", .file path⟩ := by
        unfold described? summaryOf?
        rw [existing, Option.bind_some, read]
      exact .file _ described rfl

/-- A file that is there has the name that is looked for, or the look-up fails. -/
theorem described?_of_noFile {id : String} (absent : existingFile? t (some d) id = none) :
    described? t d id = none := by
  unfold described?
  rw [absent]
  rfl

theorem origin_of_lookup {id : String} {s s' : σ}
    (looked : (usual.lookup t env id (some d) : Action Failure σ _).Succeeds s (some m) s') :
    Origin t d m := by
  unfold lookup at looked
  cases existing : existingFile? t (some d) id with
  | some path =>
      rw [existing] at looked
      have loading := Action.succeeds_note_bind_iff.mp looked
      rcases Action.succeeds_ofExcept_bind_iff.mp loading with ⟨loaded, read, ends⟩
      rcases Action.succeeds_pure_iff.mp ends with ⟨same, _⟩
      cases same
      exact origin_of_loadMachine existing read
  | none =>
      rw [existing] at looked
      rcases Action.succeeds_pure_iff.mp looked with ⟨found, _⟩
      rcases spec_of_find?_usual found.symm with ⟨named, source, registered⟩
      refine .builtIn ?_ ?_ source
      · rw [named]
        exact described?_of_noFile existing
      · rw [named]
        exact registered

theorem origin_of_selectForHost {choice : MachineChoice} (located : choice.directory = some d)
    {s s' : σ}
    (selected : (usual.selectForHost t env choice : Action Failure σ _).Succeeds s m s') :
    Origin t d m := by
  unfold selectForHost at selected
  simp only [located] at selected
  cases own : choice.host.hostname.bind (fun name =>
      (existingFile? t (some d) name).map (fun path => (name, path))) with
  | some found =>
      simp only [own] at selected
      rcases Option.bind_eq_some_iff.mp own with ⟨hostname, _, named⟩
      rcases Option.map_eq_some_iff.mp named with ⟨place, existing, same⟩
      cases same
      have loading := Action.succeeds_note_bind_iff.mp selected
      rcases Action.succeeds_ofExcept_iff.mp loading with ⟨read, _⟩
      exact origin_of_loadMachine existing read
  | none =>
      simp only [own] at selected
      cases known : choice.host.distribution with
      | none =>
          simp only [known] at selected
          rcases Action.succeeds_pure_iff.mp selected with ⟨same, _⟩
          rw [same]
          exact origin_fallback env
      | some distribution =>
          simp only [known] at selected
          rcases Action.succeeds_bind_iff.mp selected with ⟨found, s'', looked, rest⟩
          cases found with
          | some other =>
              have noted := Action.succeeds_note_bind_iff.mp rest
              rcases Action.succeeds_pure_iff.mp noted with ⟨same, _⟩
              rw [same]
              exact origin_of_lookup looked
          | none =>
              rcases Action.succeeds_pure_iff.mp rest with ⟨same, _⟩
              rw [same]
              exact origin_fallback env

theorem origin_of_select {choice : MachineChoice} (located : choice.directory = some d)
    {s s' : σ} (selected : (usual.select t env choice : Action Failure σ _).Succeeds s m s') :
    Origin t d m := by
  unfold select at selected
  split at selected
  · exact origin_of_selectForHost located selected
  · rename_i id _
    rw [located] at selected
    rcases Action.succeeds_bind_iff.mp selected with ⟨found, s'', looked, rest⟩
    cases found with
    | some other =>
        rcases Action.succeeds_pure_iff.mp rest with ⟨same, _⟩
        rw [same]
        exact origin_of_lookup looked
    | none =>
        have noted := Action.succeeds_note_bind_iff.mp rest
        rcases Action.succeeds_pure_iff.mp noted with ⟨same, _⟩
        rw [same]
        exact origin_fallback env

/-! ## What the list shows -/

theorem source_of_described? {id : String} {x : MachineSummary}
    (described : described? t d id = some x) : x.source ≠ .builtIn := by
  rw [described?_eq] at described
  unfold summaryOf? at described
  split at described
  · cases described
    exact nofun
  · cases described

theorem source_of_registered? {c : Catalogue} {id : String} {x : MachineSummary}
    (registered : c.registered? id = some x) : x.source = .builtIn := by
  rcases Option.map_eq_some_iff.mp registered with ⟨entry, _, same⟩
  rw [← same]

/-- The machine that is used when no other fits, although a file describes one of its name. -/
def Overlooked (t : FileTree) (d : Path) (m : Machine) : Prop :=
  m.source = .builtIn ∧ m.id = fallbackId ∧ (described? t d fallbackId).isSome = true

/-- Under the name of a chosen machine there is something on offer, and it comes from where the
machine comes from, unless the file of the machine was overlooked. -/
theorem Origin.offered (origin : Origin t d m) :
    ∃ x, offered? usual t d m.id = some x ∧ (x.source = m.source ↔ ¬ Overlooked t d m) := by
  unfold offered?
  cases origin with
  | file x described source =>
      refine ⟨x, by rw [described]; rfl, iff_of_true source.symm ?_⟩
      rintro ⟨builtIn, _⟩
      exact source_of_described? described (source.symm.trans builtIn)
  | builtIn noFile registered source =>
      rcases Option.isSome_iff_exists.mp registered with ⟨x, found⟩
      refine ⟨x, by rw [noFile, found]; rfl, ?_⟩
      apply iff_of_true
      · rw [source_of_registered? found, source]
      · rintro ⟨_, named, overlooked⟩
        rw [← named, noFile] at overlooked
        cases overlooked
  | fallback named source =>
      -- Here nobody looked for a file, so both endings are possible.
      cases described : described? t d m.id with
      | some x =>
          refine ⟨x, rfl, iff_of_false ?_ ?_⟩
          · intro same
            exact source_of_described? described (same.trans source)
          · intro noticed
            apply noticed
            refine ⟨source, named, ?_⟩
            rw [← named, described]
            rfl
      | none =>
          have registered : (usual.registered? fallbackId).isSome = true := rfl
          rcases Option.isSome_iff_exists.mp registered with ⟨x, found⟩
          refine ⟨x, by rw [named, found]; rfl, iff_of_true ?_ ?_⟩
          · rw [source_of_registered? found, source]
          · rintro ⟨_, _, overlooked⟩
            rw [← named, described] at overlooked
            cases overlooked

theorem filter_id_eq {machines : List MachineSummary} {x : MachineSummary}
    (once : (machines.map MachineSummary.id).Nodup) (listed : x ∈ machines) :
    machines.filter (fun y => y.id = x.id) = [x] := by
  induction machines with
  | nil => cases listed
  | cons y machines inductionHypothesis =>
      rcases List.nodup_cons.mp once with ⟨absent, others⟩
      rcases List.mem_cons.mp listed with same | later
      · subst same
        have none : machines.filter (fun y => y.id = x.id) = [] := by
          apply List.filter_eq_nil_iff.mpr
          intro y member same
          have named : y.id = x.id := of_decide_eq_true same
          exact absent (named ▸ List.mem_map_of_mem member)
        rw [List.filter_cons, none, if_pos (decide_eq_true rfl)]
      · have other : ¬ y.id = x.id := by
          intro same
          exact absent (same ▸ List.mem_map_of_mem later)
        rw [List.filter_cons, if_neg (fun same => other (of_decide_eq_true same))]
        exact inductionHypothesis others later

end Catalogue

namespace Project

variable {σ : Type} {p : Project} {t : FileTree} {env : Environment}

/-- A listing with a literal directory fails only where the choice of a machine does. -/
theorem result_listing (t : FileTree) (env : Environment)
    (literal : Glob.Literal p.machinesDir) (s : σ) :
    ∃ (all : OrderedMap String MachineSummary) (host : HostIdentity),
      (∀ id m, all.find? id = some m → m.id = id) ∧
      (∀ id, Catalogue.Agreed t p.machinesDir id →
        all.find? id = Catalogue.usual.offered? t p.machinesDir id) ∧
      ((p.listing t env : Action Failure σ _) s).result =
        ((p.selectMachine t env none : Action Failure σ _) s).result.map
          (fun m => ⟨all.values, host, m.id⟩) := by
  rcases Catalogue.succeeds_list Catalogue.usual t literal s with ⟨all, listed, told, offers⟩
  refine ⟨all, ⟨HostIdentity.hostnameOf t env, HostIdentity.distributionIn t ⟨"/etc/issue"⟩⟩, told,
    offers, ?_⟩
  unfold listing
  rw [Action.bind_result, listed.result, listed.state]
  simp only [Action.bind_result]
  cases ((p.selectMachine t env none : Action Failure σ _) s).result with
  | error e => rfl
  | ok m => rfl

/-- The marked machine of a list is the one that would be used.  It stands in the list once,
and its source is the one that is shown, unless nothing fits the host and the machine file of
the fallback is overlooked. -/
theorem listing_shows_selected (literal : Glob.Literal p.machinesDir) {s : σ} {l : Listing}
    (listed : ((p.listing t env : Action Failure σ _) s).result = .ok l)
    (agreed : Catalogue.Agreed t p.machinesDir l.selected) :
    ∃ m x, ((p.selectMachine t env none : Action Failure σ _) s).result = .ok m ∧
      m.id = l.selected ∧ l.machines.filter (fun y => y.id = l.selected) = [x] ∧
      (x.source = m.source ↔ ¬ Catalogue.Overlooked t p.machinesDir m) := by
  rcases result_listing t env literal s with ⟨all, host, told, offers, result⟩
  rw [listed] at result
  cases selected : ((p.selectMachine t env none : Action Failure σ _) s).result with
  | error e =>
      rw [selected] at result
      cases result
  | ok m =>
      rw [selected] at result
      cases result
      have origin : Catalogue.Origin t p.machinesDir m := by
        have chosen := Action.Succeeds.of_result selected
        unfold selectMachine at chosen
        rcases Action.succeeds_bind_iff.mp chosen with ⟨identity, _, _, choosing⟩
        exact Catalogue.origin_of_select rfl choosing
      rcases origin.offered with ⟨x, offered, shows⟩
      have bound : all.find? m.id = some x := (offers m.id agreed).trans offered
      have named : x.id = m.id := told m.id x bound
      refine ⟨m, x, rfl, rfl, ?_, shows⟩
      change all.values.filter (fun y => y.id = m.id) = [x]
      rw [← named]
      exact Catalogue.filter_id_eq (all.nodup_values told) (all.mem_values_iff.mpr ⟨m.id, bound⟩)

/-! A project with a file for the machine that fits everywhere. -/

def workshop (machine : String) : Project :=
  ⟨⟨"/p"⟩, { Settings.none with machine := some machine }⟩

def workshopTree : FileTree :=
  (FileTree.empty.putFile? ["p", ".hostconf", "machines", "default.toml"] [] false).getD
    FileTree.empty

/-- Where the settings ask for `default`, the file is listed and it is the one that is used. -/
theorem listing_shows_selected_workshop :
    Glob.Literal (workshop "default").machinesDir ∧ ∃ (l : Listing) (x : MachineSummary),
      (((workshop "default").listing workshopTree OrderedMap.empty : Action Failure Unit _)
        ()).result = .ok l ∧
      l.machines.filter (fun y => y.id = "default") = [x] ∧
      x.source = .file ⟨"/p/.hostconf/machines/default.toml"⟩ := by
  have literal : Glob.Literal (workshop "default").machinesDir := by decide
  have chosen : ∃ m, (((workshop "default").selectMachine workshopTree OrderedMap.empty none :
      Action Failure Unit _) ()).result = .ok m ∧ m.id = "default" ∧
      m.source = .file ⟨"/p/.hostconf/machines/default.toml"⟩ := ⟨_, rfl, rfl, rfl⟩
  rcases chosen with ⟨m, selected, named, source⟩
  rcases result_listing workshopTree OrderedMap.empty literal () with
    ⟨all, host, _, _, result⟩
  rw [selected] at result
  have agreed : Catalogue.Agreed workshopTree (workshop "default").machinesDir m.id := by
    rw [named]
    exact ⟨by decide, fun special => absurd special (by decide)⟩
  rcases listing_shows_selected literal result agreed with ⟨m', x, again, _, once, shows⟩
  have same : m' = m := Except.ok.inj (again.symm.trans selected)
  subst same
  have noticed : ¬ Catalogue.Overlooked workshopTree (workshop "default").machinesDir m' := by
    rintro ⟨builtIn, _⟩
    rw [source] at builtIn
    cases builtIn
  refine ⟨literal, _, x, result, ?_, (shows.mpr noticed).trans source⟩
  rw [← named]
  exact once

/-- Where the settings ask for a machine that is unknown, the file of `default` is shown as the
source of the marked machine, and the built-in machine is used. -/
theorem not_forall_listing_shows_selected :
    ¬ ∀ (p : Project) (t : FileTree) (env : Environment) (l : Listing) (m : Machine),
      ((p.listing t env : Action Failure Unit _) ()).result = .ok l →
      ((p.selectMachine t env none : Action Failure Unit _) ()).result = .ok m →
      ∀ x ∈ l.machines, x.id = l.selected → x.source = m.source := by
  intro every
  have literal : Glob.Literal (workshop "nosuch").machinesDir := by decide
  have selected : (((workshop "nosuch").selectMachine workshopTree OrderedMap.empty none :
      Action Failure Unit _) ()).result = .ok (Machine.generic OrderedMap.empty) := rfl
  rcases result_listing workshopTree OrderedMap.empty literal () with
    ⟨all, host, told, offers, result⟩
  rw [selected] at result
  have agreed : Catalogue.Agreed workshopTree (workshop "nosuch").machinesDir "default" :=
    ⟨by decide, fun special => absurd special (by decide)⟩
  have offered : ∃ x, Catalogue.usual.offered? workshopTree (workshop "nosuch").machinesDir
      "default" = some x ∧ x.source = .file ⟨"/p/.hostconf/machines/default.toml"⟩ :=
    ⟨_, rfl, rfl⟩
  rcases offered with ⟨x, offered, source⟩
  have bound := (offers "default" agreed).trans offered
  have same := every _ _ _ _ _ result selected x (all.mem_values_iff.mpr ⟨"default", bound⟩)
    (told "default" x bound)
  rw [source] at same
  cases same

end Project
end HostLink
