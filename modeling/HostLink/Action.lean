namespace HostLink

/-!
Steps of a run.  A step starts from a state and ends in one, it succeeds with a value or
fails with a cause, and it may leave notes for the reader of the run.  A failing step keeps
what it did before it failed: the state it leaves is visible to whoever handles the failure,
and so are its notes.
-/

/-- How important a note is. -/
inductive Severity where
  | debug
  | info
  | warning
  deriving DecidableEq

/-- A remark on how the run went. -/
structure Note where
  severity : Severity
  text : String
  deriving DecidableEq

/-- The end of a step: a value or a cause of failure, the state left, and the notes made. -/
structure Outcome (ε σ α : Type) where
  result : Except ε α
  state : σ
  notes : List Note

/-- A step that works on a state. -/
def Action (ε σ α : Type) : Type :=
  σ → Outcome ε σ α

namespace Action

variable {ε ε' σ τ α β : Type}

def pure (a : α) : Action ε σ α := fun s =>
  { result := .ok a, state := s, notes := [] }

/-- Runs one step and hands its value to the next; a failure ends the run. -/
def bind (x : Action ε σ α) (f : α → Action ε σ β) : Action ε σ β := fun s =>
  match x s with
  | ⟨.error e, s', notes⟩ => ⟨.error e, s', notes⟩
  | ⟨.ok a, s', notes⟩ =>
      match f a s' with
      | ⟨result, s'', more⟩ => ⟨result, s'', notes ++ more⟩

instance : Monad (Action ε σ) where
  pure := pure
  bind := bind

/-- Fails with a cause and changes nothing. -/
def fail (e : ε) : Action ε σ α := fun s =>
  { result := .error e, state := s, notes := [] }

/-- Leaves a note. -/
def note (severity : Severity) (text : String) : Action ε σ Unit := fun s =>
  { result := .ok (), state := s, notes := [⟨severity, text⟩] }

/-- The current state. -/
def state : Action ε σ σ := fun s =>
  { result := .ok s, state := s, notes := [] }

/-- Changes the state. -/
def update (f : σ → σ) : Action ε σ Unit := fun s =>
  { result := .ok (), state := f s, notes := [] }

/-- Takes over a result that was computed without a state. -/
def ofExcept : Except ε α → Action ε σ α
  | .ok a => pure a
  | .error e => fail e

/-- A step on a part of the state: what it leaves is put back, also when it fails. -/
def onPart (get : σ → τ) (put : τ → σ → σ) (x : Action ε τ α) : Action ε σ α := fun s =>
  match x (get s) with
  | ⟨result, t, notes⟩ => ⟨result, put t s, notes⟩

/-- The same step with its causes of failure restated. -/
def mapError (f : ε → ε') (x : Action ε σ α) : Action ε' σ α := fun s =>
  match x s with
  | ⟨.error e, s', notes⟩ => ⟨.error (f e), s', notes⟩
  | ⟨.ok a, s', notes⟩ => ⟨.ok a, s', notes⟩

/-- A step that cannot fail: a failure becomes part of its value. -/
def attempt (x : Action ε σ α) : Action ε' σ (Except ε α) := fun s =>
  match x s with
  | ⟨result, s', notes⟩ => ⟨.ok result, s', notes⟩

/-- Runs a step for each element, from the left, until one fails. -/
def forEach (f : β → Action ε σ Unit) : List β → Action ε σ Unit
  | [] => pure ()
  | b :: rest => bind (f b) (fun _ => forEach f rest)

@[simp]
theorem pure_apply (a : α) (s : σ) :
    (Pure.pure a : Action ε σ α) s = ⟨.ok a, s, []⟩ :=
  rfl

theorem bind_apply_ok {x : Action ε σ α} {s s' : σ} {a : α} {notes : List Note}
    (h : x s = ⟨.ok a, s', notes⟩) (f : α → Action ε σ β) :
    (x >>= f) s = ⟨(f a s').result, (f a s').state, notes ++ (f a s').notes⟩ := by
  show bind x f s = _
  simp only [bind, h]

theorem bind_apply_error {x : Action ε σ α} {s s' : σ} {e : ε} {notes : List Note}
    (h : x s = ⟨.error e, s', notes⟩) (f : α → Action ε σ β) :
    (x >>= f) s = ⟨.error e, s', notes⟩ := by
  show bind x f s = _
  simp only [bind, h]

@[simp]
theorem fail_apply (e : ε) (s : σ) : (fail e : Action ε σ α) s = ⟨.error e, s, []⟩ :=
  rfl

@[simp]
theorem note_apply (severity : Severity) (text : String) (s : σ) :
    (note severity text : Action ε σ Unit) s = ⟨.ok (), s, [⟨severity, text⟩]⟩ :=
  rfl

@[simp]
theorem state_apply (s : σ) : (state : Action ε σ σ) s = ⟨.ok s, s, []⟩ :=
  rfl

@[simp]
theorem update_apply (f : σ → σ) (s : σ) :
    (update f : Action ε σ Unit) s = ⟨.ok (), f s, []⟩ :=
  rfl

/-- A run succeeds exactly if its first step does and the rest does from there on. -/
theorem bind_result_eq_ok_iff {x : Action ε σ α} {f : α → Action ε σ β} {s : σ} {b : β} :
    ((x >>= f) s).result = .ok b ↔
      ∃ a, (x s).result = .ok a ∧ (f a (x s).state).result = .ok b := by
  show (bind x f s).result = _ ↔ _
  simp only [bind]
  rcases x s with ⟨result, s', notes⟩
  cases result with
  | error e => simp
  | ok a => simp

end Action

end HostLink
