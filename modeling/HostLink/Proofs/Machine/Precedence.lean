import HostLink.Machine.Catalogue
import HostLink.Proofs.Action.Kept

namespace HostLink

/-!
# Which machine is chosen

A choice of a machine is a list of candidates, from the first to the last, and each of them is
a machine file or a built-in machine of some name.  A candidate *offers* something if the file
is there or the machine is registered.  The first offer is taken.  Where there is none, the
machine that is registered as the default stands in, and the generic one if none is registered.

Only then is a file read.  So what the files say has no part in the decision, a file that is
taken and cannot be used is an error, and no other file matters.
-/

namespace MachineChoice

/-- A machine that a choice may come down to. -/
inductive Candidate where
  /-- The machine file of a name. -/
  | file (id : String)
  /-- The built-in machine of a name. -/
  | builtIn (id : String)

/-- What there is of a candidate. -/
inductive Offer where
  | file (id : String) (path : Path)
  | made (m : Machine)

/-- The machine that an offer comes to.  A file must be readable and say what the machine is, which
then has the name and the path that the file was looked for with. -/
inductive Offer.Gives (t : FileTree) : Offer → Machine → Prop
  | file {id text : String} {path : Path} {d : MachineDescription}
      (read : t.readText path = .ok text)
      (described : MachineDescription.ofText? text = some d) :
      Gives t (.file id path) (d.toMachine id (.file path))
  | made (m : Machine) : Gives t (.made m) m

namespace Candidate

/-- A name stands for the machine file, and then for the built-in machine. -/
def named (id : String) : List Candidate :=
  [.file id, .builtIn id]

/-- What a candidate offers, if anything: the file of its name in the directory, or the machine
that is registered under its name. -/
def offer? (c : Catalogue) (t : FileTree) (env : Environment) (directory : Option Path) :
    Candidate → Option Offer
  | file id =>
      ((directory.map (fun d => d.child (id ++ ".toml"))).filter t.isFile).map (Offer.file id)
  | builtIn id => (c.entries.find? id).map (fun entry => .made (entry.make env))

end Candidate

/-- The candidates of a choice, in the order in which they are considered.  A name that is asked
for is the only one; without it there is the file of the host, and then what the name of the
distribution stands for. -/
def candidates (choice : MachineChoice) : List Candidate :=
  match choice.wanted with
  | some id => Candidate.named id
  | none =>
      (choice.host.hostname.map Candidate.file).toList ++
        (choice.host.distribution.map Candidate.named).getD []

end MachineChoice

namespace Catalogue

open MachineChoice (Candidate Offer)

variable {σ : Type} (c : Catalogue) (t : FileTree) (env : Environment)

/-- The machine that stands in where nothing is offered. -/
def lastResort : Machine :=
  match c.entries.find? "default" with
  | some entry => entry.make env
  | none => Machine.generic env

/-- The offer that a choice comes down to. -/
def firstOffer (choice : MachineChoice) : Offer :=
  (choice.candidates.findSome? (Candidate.offer? c t env choice.directory)).getD
    (.made (c.lastResort env))

/-! ## The look-ups -/

theorem offer?_file (directory : Option Path) (id : String) :
    Candidate.offer? c t env directory (.file id) =
      (existingFile? t directory id).map (Offer.file id) :=
  rfl

theorem offer?_builtIn (directory : Option Path) (id : String) :
    Candidate.offer? c t env directory (.builtIn id) = (c.find? env id).map Offer.made := by
  rw [find?, Option.map_map]
  rfl

theorem fallback_eq : c.fallback env = c.lastResort env := by
  unfold fallback find? lastResort
  change ((c.entries.find? "default").map _).getD _ = _
  cases c.entries.find? "default" <;> rfl

/-! ## The decision -/

/-- The machine of an offer, or why it cannot be had. -/
def machineOf : Offer → Except Failure Machine
  | .file id path => loadMachine t path id
  | .made m => .ok m

theorem existingFile?_eq_some_iff {t : FileTree} {directory : Option Path} {id : String}
    {path : Path} :
    existingFile? t directory id = some path ↔
      t.isFile path = true ∧ ∃ d, directory = some d ∧ path = d.child (id ++ ".toml") := by
  unfold existingFile? fileOf
  rw [Option.filter_eq_some_iff, Option.map_eq_some_iff]
  constructor
  · rintro ⟨⟨d, known, same⟩, file⟩
    exact ⟨file, d, known, same.symm⟩
  · rintro ⟨file, d, known, same⟩
    exact ⟨⟨d, known, same.symm⟩, file⟩

/-- A machine file comes before the built-in machine of its name. -/
theorem findSome?_named (id : String) (directory : Option Path) :
    (Candidate.named id).findSome? (Candidate.offer? c t env directory) =
      match existingFile? t directory id with
      | some path => some (.file id path)
      | none => (c.find? env id).map Offer.made := by
  unfold Candidate.named
  simp only [List.findSome?_cons, List.findSome?_nil, offer?_file, offer?_builtIn]
  cases existingFile? t directory id with
  | some path => rfl
  | none => cases c.find? env id <;> rfl

theorem result_lookup (id : String) (directory : Option Path) (s : σ) :
    (c.lookup t env id directory s).result =
      match (Candidate.named id).findSome? (Candidate.offer? c t env directory) with
      | some offer => (machineOf t offer).map some
      | none => .ok none := by
  rw [findSome?_named]
  unfold lookup
  cases existingFile? t directory id with
  | some path =>
      simp only [Action.bind_result, Action.note_apply, Action.ofExcept_result, machineOf]
      cases loadMachine t path id <;> rfl
  | none => cases c.find? env id <;> rfl

/-- A name that is asked for is all that counts. -/
theorem candidates_of_wanted {choice : MachineChoice} {id : String}
    (wanted : choice.wanted = some id) : choice.candidates = Candidate.named id := by
  unfold MachineChoice.candidates
  rw [wanted]

/-- Without a name the file of the host comes before what the distribution stands for. -/
theorem firstOffer_of_free {choice : MachineChoice} (free : choice.wanted = none) :
    c.firstOffer t env choice =
      match choice.host.hostname.bind (fun name =>
        (existingFile? t choice.directory name).map (fun path => (name, path))) with
      | some (name, path) => .file name path
      | none =>
          (choice.host.distribution.bind (fun id =>
            (Candidate.named id).findSome? (Candidate.offer? c t env choice.directory))).getD
              (.made (c.lastResort env)) := by
  unfold firstOffer MachineChoice.candidates
  rw [free]
  simp only [List.findSome?_append]
  cases choice.host.hostname with
  | none => cases choice.host.distribution <;> rfl
  | some name =>
      simp only [Option.map_some, Option.toList_some, List.findSome?_cons, List.findSome?_nil,
        offer?_file, Option.bind_some]
      cases existingFile? t choice.directory name with
      | none => cases choice.host.distribution <;> rfl
      | some path => rfl

theorem result_selectForHost {choice : MachineChoice} (free : choice.wanted = none) (s : σ) :
    (c.selectForHost t env choice s).result = machineOf t (c.firstOffer t env choice) := by
  rw [c.firstOffer_of_free t env free]
  unfold selectForHost
  rw [fallback_eq]
  cases own : choice.host.hostname.bind (fun name =>
      (existingFile? t choice.directory name).map (fun path => (name, path))) with
  | some found =>
      simp only [Action.bind_result, Action.note_apply, Action.ofExcept_result, machineOf]
  | none =>
      cases choice.host.distribution with
      | none => rfl
      | some id =>
          simp only [Action.bind_result, result_lookup, Option.bind_some]
          cases (Candidate.named id).findSome? (Candidate.offer? c t env choice.directory) with
          | none => rfl
          | some offer =>
              simp only [Option.getD_some]
              cases machineOf t offer <;> rfl

theorem result_select (choice : MachineChoice) (s : σ) :
    (c.select t env choice s).result = machineOf t (c.firstOffer t env choice) := by
  unfold select
  cases wanted : choice.wanted with
  | none => exact c.result_selectForHost t env wanted s
  | some id =>
      unfold firstOffer
      rw [candidates_of_wanted wanted, fallback_eq]
      simp only [Action.bind_result, result_lookup]
      cases (Candidate.named id).findSome? (Candidate.offer? c t env choice.directory) with
      | none => rfl
      | some offer =>
          simp only [Option.getD_some]
          cases machineOf t offer <;> rfl

/-! ## What a choice leaves alone -/

theorem keeps_lookup (id : String) (directory : Option Path) :
    (c.lookup t env id directory : Action Failure σ _).Keeps (fun s => s) := by
  unfold lookup
  cases existingFile? t directory id with
  | none => exact Action.keeps_pure _
  | some path =>
      apply Action.keeps_bind (Action.keeps_note _ _)
      intro _
      exact Action.keeps_bind (Action.keeps_ofExcept _) (fun _ => Action.keeps_pure _)

theorem keeps_selectForHost (choice : MachineChoice) :
    (c.selectForHost t env choice : Action Failure σ _).Keeps (fun s => s) := by
  unfold selectForHost
  cases choice.host.hostname.bind (fun name =>
      (existingFile? t choice.directory name).map (fun path => (name, path))) with
  | some found =>
      exact Action.keeps_bind (Action.keeps_note _ _) (fun _ => Action.keeps_ofExcept _)
  | none =>
      cases choice.host.distribution with
      | none => exact Action.keeps_pure _
      | some id =>
          apply Action.keeps_bind (c.keeps_lookup t env id choice.directory)
          intro found
          cases found with
          | none => exact Action.keeps_pure _
          | some m => exact Action.keeps_bind (Action.keeps_note _ _) (fun _ => Action.keeps_pure _)

/-- A choice writes nothing. -/
theorem keeps_select (choice : MachineChoice) :
    (c.select t env choice : Action Failure σ _).Keeps (fun s => s) := by
  unfold select
  cases choice.wanted with
  | none => exact c.keeps_selectForHost t env choice
  | some id =>
      apply Action.keeps_bind (c.keeps_lookup t env id choice.directory)
      intro found
      cases found with
      | some m => exact Action.keeps_pure _
      | none => exact Action.keeps_bind (Action.keeps_note _ _) (fun _ => Action.keeps_pure _)

/-! ## Machine files -/

/-- A machine file cannot be used. -/
inductive Refused (t : FileTree) (path : Path) : Failure → Prop
  | unreadable {cause : FileFailure} (read : t.readText path = .error cause) :
      Refused t path (.unreadableFile path cause)
  | malformed {text : String} (read : t.readText path = .ok text)
      (faulty : MachineDescription.ofText? text = none) : Refused t path (.malformedFile path)

variable {c t env}

theorem loadMachine_eq (t : FileTree) (path : Path) (id : String) :
    loadMachine t path id =
      match t.readText path with
      | .error cause => .error (.unreadableFile path cause)
      | .ok text =>
          match MachineDescription.ofText? text with
          | some d => .ok (d.toMachine id (.file path))
          | none => .error (.malformedFile path) := by
  unfold loadMachine MachineDescription.load FileTree.textOf
  cases t.readText path with
  | error cause => rfl
  | ok text =>
      simp only [bind, Except.bind]
      cases MachineDescription.ofText? text <;> rfl

theorem loadMachine_eq_error_iff {path : Path} {id : String} {e : Failure} :
    loadMachine t path id = .error e ↔ Refused t path e := by
  rw [loadMachine_eq]
  constructor
  · intro failed
    cases read : t.readText path with
    | error cause =>
        rw [read] at failed
        cases failed
        exact .unreadable read
    | ok text =>
        cases described : MachineDescription.ofText? text with
        | some d =>
            simp only [read, described] at failed
            cases failed
        | none =>
            simp only [read, described] at failed
            cases failed
            exact .malformed read described
  · intro refused
    cases refused with
    | unreadable read => rw [read]
    | malformed read faulty => simp only [read, faulty]

theorem machineOf_eq_ok_iff {offer : Offer} {m : Machine} :
    machineOf t offer = .ok m ↔ offer.Gives t m := by
  constructor
  · intro had
    cases offer with
    | made own =>
        cases had
        exact .made _
    | file id path =>
        rw [machineOf, loadMachine_eq] at had
        cases read : t.readText path with
        | error cause =>
            rw [read] at had
            cases had
        | ok text =>
            cases described : MachineDescription.ofText? text with
            | none =>
                simp only [read, described] at had
                cases had
            | some d =>
                simp only [read, described] at had
                cases had
                exact .file read described
  · intro given
    cases given with
    | made own => rfl
    | file read described => simp only [machineOf, loadMachine_eq, read, described]

/-- Only the text of the file counts. -/
theorem loadMachine_congr {t' : FileTree} {path : Path}
    (same : t'.readText path = t.readText path) (id : String) :
    loadMachine t' path id = loadMachine t path id := by
  rw [loadMachine_eq, loadMachine_eq, same]

/-! ## Other files -/

/-- Another tree has the same candidate files as this one, and the same text in the file that is
taken here, if one is. -/
structure SameChoice (c : Catalogue) (t : FileTree) (env : Environment) (choice : MachineChoice)
    (t' : FileTree) : Prop where
  files : ∀ id d, .file id ∈ choice.candidates → choice.directory = some d →
    t'.isFile (d.child (id ++ ".toml")) = t.isFile (d.child (id ++ ".toml"))
  text : ∀ id path, c.firstOffer t env choice = .file id path → t'.readText path = t.readText path

theorem existingFile?_congr {t' : FileTree} {directory : Option Path} {id : String}
    (same : ∀ d, directory = some d → t'.isFile (fileOf d id) = t.isFile (fileOf d id)) :
    existingFile? t' directory id = existingFile? t directory id := by
  unfold existingFile?
  cases directory with
  | none => rfl
  | some d =>
      simp only [Option.map_some, Option.filter_some]
      rw [same d rfl]

theorem lookup_congr {t' : FileTree} {id : String} {directory : Option Path}
    (files : existingFile? t' directory id = existingFile? t directory id)
    (text : ∀ path, existingFile? t directory id = some path →
      t'.readText path = t.readText path) :
    (c.lookup t' env id directory : Action Failure σ _) = c.lookup t env id directory := by
  unfold lookup
  rw [files]
  cases existing : existingFile? t directory id with
  | none => rfl
  | some path => simp only [loadMachine_congr (text path existing)]

theorem mem_candidates_of_hostname {choice : MachineChoice} (free : choice.wanted = none)
    {name : String} (known : choice.host.hostname = some name) :
    .file name ∈ choice.candidates := by
  unfold MachineChoice.candidates
  rw [free, known]
  exact List.mem_cons_self

theorem mem_candidates_of_distribution {choice : MachineChoice} (free : choice.wanted = none)
    {id : String} (known : choice.host.distribution = some id) :
    .file id ∈ choice.candidates := by
  unfold MachineChoice.candidates
  rw [free, known]
  exact List.mem_append_right _ List.mem_cons_self

theorem selectForHost_congr {choice : MachineChoice} (free : choice.wanted = none)
    {t' : FileTree} (same : SameChoice c t env choice t') :
    (c.selectForHost t' env choice : Action Failure σ _) = c.selectForHost t env choice := by
  have files : ∀ id, .file id ∈ choice.candidates →
      existingFile? t' choice.directory id = existingFile? t choice.directory id :=
    fun id listed => existingFile?_congr (fun d known => same.files id d listed known)
  have hostFile : choice.host.hostname.bind (fun name =>
        (existingFile? t' choice.directory name).map (fun path => (name, path))) =
      choice.host.hostname.bind (fun name =>
        (existingFile? t choice.directory name).map (fun path => (name, path))) := by
    cases known : choice.host.hostname with
    | none => rfl
    | some name =>
        simp only [Option.bind_some]
        rw [files name (mem_candidates_of_hostname free known)]
  -- Which file is taken does not hang on what it says, so both trees come to the same offer.
  have offer := c.firstOffer_of_free t env free
  unfold selectForHost
  rw [hostFile]
  cases own : choice.host.hostname.bind (fun name =>
      (existingFile? t choice.directory name).map (fun path => (name, path))) with
  | some found =>
      rw [own] at offer
      simp only [loadMachine_congr (same.text found.1 found.2 offer)]
  | none =>
      rw [own] at offer
      cases known : choice.host.distribution with
      | none => rfl
      | some id =>
          have looked : (c.lookup t' env id choice.directory : Action Failure σ _) =
              c.lookup t env id choice.directory := by
            apply lookup_congr (files id (mem_candidates_of_distribution free known))
            intro path existing
            apply same.text id path
            rw [offer, known, Option.bind_some, findSome?_named, existing]
            rfl
          simp only [looked]

/-- What is chosen hangs on these alone. -/
theorem select_congr {choice : MachineChoice} {t' : FileTree}
    (same : SameChoice c t env choice t') :
    (c.select t' env choice : Action Failure σ _) = c.select t env choice := by
  unfold select
  cases wanted : choice.wanted with
  | none => exact selectForHost_congr wanted same
  | some id =>
      have candidates := candidates_of_wanted wanted
      have looked : (c.lookup t' env id choice.directory : Action Failure σ _) =
          c.lookup t env id choice.directory := by
        apply lookup_congr
        · apply existingFile?_congr
          intro d known
          apply same.files id d _ known
          rw [candidates]
          exact List.mem_cons_self
        · intro path existing
          apply same.text id path
          unfold firstOffer
          rw [candidates, findSome?_named, existing]
          rfl
      simp only [looked]

/-! ## The choice as a whole -/

/-- A file that is taken is a candidate, and it is there. -/
theorem existing_of_firstOffer {choice : MachineChoice} {id : String} {path : Path}
    (taken : c.firstOffer t env choice = .file id path) :
    .file id ∈ choice.candidates ∧ existingFile? t choice.directory id = some path := by
  unfold firstOffer at taken
  cases found : choice.candidates.findSome? (Candidate.offer? c t env choice.directory) with
  | none =>
      rw [found] at taken
      cases taken
  | some offer =>
      rw [found, Option.getD_some] at taken
      subst taken
      rcases List.exists_of_findSome?_eq_some found with ⟨candidate, listed, offered⟩
      cases candidate with
      | file name =>
          rcases Option.map_eq_some_iff.mp offered with ⟨place, existing, same⟩
          cases same
          exact ⟨listed, existing⟩
      | builtIn name =>
          rcases Option.map_eq_some_iff.mp offered with ⟨m, _, same⟩
          cases same

/-- A choice fails exactly for a file that was taken and cannot be used. -/
theorem select_eq_error_iff {choice : MachineChoice} {s : σ} {e : Failure} :
    (c.select t env choice s).result = .error e ↔
      ∃ id path, c.firstOffer t env choice = .file id path ∧ Refused t path e := by
  rw [result_select]
  cases taken : c.firstOffer t env choice with
  | file id path =>
      rw [machineOf, loadMachine_eq_error_iff]
      constructor
      · intro refused
        exact ⟨id, path, rfl, refused⟩
      · rintro ⟨_, _, same, refused⟩
        cases same
        exact refused
  | made m =>
      constructor
      · intro failed
        cases failed
      · rintro ⟨_, _, same, _⟩
        cases same

/-- A choice comes to the machine of the offer that is taken. -/
theorem select_eq_ok_iff {choice : MachineChoice} {s : σ} {m : Machine} :
    (c.select t env choice s).result = .ok m ↔ (c.firstOffer t env choice).Gives t m := by
  rw [result_select, machineOf_eq_ok_iff]

/-- With a name that is asked for the host has no part in the choice. -/
theorem select_of_wanted {choice : MachineChoice} {id : String} (wanted : choice.wanted = some id)
    (host : HostIdentity) :
    (c.select t env { choice with host := host } : Action Failure σ _) =
      c.select t env choice := by
  unfold select
  rw [wanted]

/-- The machine of a choice is the first that its candidates offer, and nothing is written.  A
name that is asked for makes the choice without the host.  A file that is taken is the one of its
name in the directory, and its machine has this name and this source.  The choice fails exactly
if the file that is taken cannot be read or understood, and no other file has a part in it. -/
theorem select_takes_first (c : Catalogue) (t : FileTree) (env : Environment)
    (choice : MachineChoice) (s : σ) :
    (∀ m, (c.select t env choice s).result = .ok m ↔ (c.firstOffer t env choice).Gives t m) ∧
      (∀ e, (c.select t env choice s).result = .error e ↔
        ∃ id path, c.firstOffer t env choice = .file id path ∧ Refused t path e) ∧
      (c.select t env choice s).state = s ∧
      (∀ id host, choice.wanted = some id →
        c.select t env { choice with host := host } s = c.select t env choice s) ∧
      (∀ id path, c.firstOffer t env choice = .file id path →
        .file id ∈ choice.candidates ∧ t.isFile path = true ∧
          (∃ d, choice.directory = some d ∧ path = d.child (id ++ ".toml")) ∧
          ∀ m, (c.select t env choice s).result = .ok m → m.id = id ∧ m.source = .file path) ∧
      ∀ t', SameChoice c t env choice t' →
        c.select t' env choice s = c.select t env choice s := by
  refine ⟨fun m => select_eq_ok_iff, fun e => select_eq_error_iff, c.keeps_select t env choice s,
    ?_, ?_, fun t' same => by rw [select_congr same]⟩
  · intro id host wanted
    rw [select_of_wanted wanted]
  · intro id path taken
    rcases existing_of_firstOffer taken with ⟨listed, existing⟩
    rcases existingFile?_eq_some_iff.mp existing with ⟨file, placed⟩
    refine ⟨listed, file, placed, ?_⟩
    intro m selected
    have given := select_eq_ok_iff.mp selected
    rw [taken] at given
    cases given with
    | file read described => exact ⟨rfl, rfl⟩

/-! A broken file of the host, with a good one for its distribution.  The names that are asked for
have no file; one of them is registered. -/

def nodeChoice (wanted : Option String) : MachineChoice where
  wanted := wanted
  directory := some ⟨"/m"⟩
  host := { hostname := some "node", distribution := some "ubuntu" }

def nodeTree (content : List UInt8) : FileTree :=
  ((FileTree.empty.putFile? ["m", "node.toml"] (Text.asciiBytes "libraries = ") false).bind
    (fun t => t.putFile? ["m", "ubuntu.toml"] content false)).getD FileTree.empty

/-- Where the machine of Ubuntu is the default. -/
def packagedCatalogue : Catalogue :=
  empty.register "default" "Ubuntu distribution packages" (fun _ => Machine.ubuntu)

/-- Without a name the broken file is the choice, whatever the other file holds.  A name comes to
the machine that is registered for it, else to the default, and without one to the generic
machine. -/
theorem select_takes_first_node :
    ((usual.select (nodeTree []) OrderedMap.empty (nodeChoice none) ()).result =
        .error (.malformedFile ⟨"/m/node.toml"⟩) ∧
      usual.select (nodeTree (Text.asciiBytes "arch = ")) OrderedMap.empty (nodeChoice none) () =
        usual.select (nodeTree []) OrderedMap.empty (nodeChoice none) ()) ∧
    (usual.select (nodeTree []) OrderedMap.empty (nodeChoice (some "debian")) ()).result =
      .ok Machine.debian ∧
    (packagedCatalogue.select (nodeTree []) OrderedMap.empty (nodeChoice (some "debian"))
      ()).result = .ok Machine.ubuntu ∧
    (empty.select (nodeTree []) OrderedMap.empty (nodeChoice (some "debian")) ()).result =
      .ok (Machine.generic OrderedMap.empty) := by
  refine ⟨?_, ?_, ?_, ?_⟩
  · rcases select_takes_first usual (nodeTree []) OrderedMap.empty (nodeChoice none) () with
      ⟨_, fails, _, _, _, unread⟩
    have taken : usual.firstOffer (nodeTree []) OrderedMap.empty (nodeChoice none) =
        .file "node" ⟨"/m/node.toml"⟩ := rfl
    have faulty : (MachineDescription.ofText? "libraries = ").isNone = true := by decide +kernel
    have read : (nodeTree []).readText ⟨"/m/node.toml"⟩ = .ok "libraries = " := rfl
    have refused := Refused.malformed read (Option.isNone_iff_eq_none.mp faulty)
    have same : SameChoice usual (nodeTree []) OrderedMap.empty (nodeChoice none)
        (nodeTree (Text.asciiBytes "arch = ")) := by
      constructor
      · intro id d listed known
        cases known
        have candidates : (nodeChoice none).candidates =
            [.file "node", .file "ubuntu", .builtIn "ubuntu"] := rfl
        simp only [candidates, List.mem_cons, Candidate.file.injEq, reduceCtorEq,
          List.not_mem_nil, or_false] at listed
        rcases listed with host | distribution
        · rw [host]
          rfl
        · rw [distribution]
          rfl
      · intro id path again
        cases taken.symm.trans again
        rfl
    exact ⟨(fails _).mpr ⟨"node", _, taken, refused⟩, unread _ same⟩
  · exact ((select_takes_first usual _ _ (nodeChoice (some "debian")) ()).1 _).mpr (.made _)
  · exact ((select_takes_first packagedCatalogue _ _ (nodeChoice (some "debian")) ()).1 _).mpr
      (.made _)
  · exact ((select_takes_first empty _ _ (nodeChoice (some "debian")) ()).1 _).mpr (.made _)

end Catalogue
end HostLink
