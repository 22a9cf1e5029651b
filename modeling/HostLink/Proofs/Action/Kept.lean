import HostLink.Proofs.Action

namespace HostLink
namespace Action

/-!
# What steps leave alone

A failing step keeps what it did before it failed, so nothing is taken back.  A part of the
state is as it was after a failure only if no step on the way has written it.  A step *keeps*
a view of the state if this looks the same afterwards, however the step ends.  There is one
rule for every way of building a step, and a step that is put together from such that keep a
view keeps it as well.
-/

variable {ε σ τ υ α β γ : Type}

/-- However the step ends, what is seen of the state is what was seen before. -/
def Keeps (view : σ → υ) (x : Action ε σ α) : Prop :=
  ∀ s, view (x s).state = view s

variable {view : σ → υ}

theorem keeps_pure (a : α) : Keeps view (Pure.pure a : Action ε σ α) :=
  fun _ => rfl

theorem keeps_pure' (a : α) : Keeps view (pure a : Action ε σ α) :=
  keeps_pure a

theorem keeps_fail (e : ε) : Keeps view (fail e : Action ε σ α) :=
  fun _ => rfl

theorem keeps_note (severity : Severity) (text : String) :
    Keeps view (note severity text : Action ε σ Unit) :=
  fun _ => rfl

theorem keeps_ofExcept (r : Except ε α) : Keeps view (ofExcept r : Action ε σ α) := by
  intro s
  rw [ofExcept_state]

/-- A change keeps what it does not write. -/
theorem keeps_update {f : σ → σ} (kept : ∀ s, view (f s) = view s) :
    Keeps view (update f : Action ε σ Unit) :=
  kept

/-- A sequence keeps what its steps keep, also if it ends after the first. -/
theorem keeps_bind {x : Action ε σ α} {f : α → Action ε σ β} (first : Keeps view x)
    (rest : ∀ a, Keeps view (f a)) : Keeps view (x >>= f) := by
  intro s
  rw [bind_state]
  cases (x s).result with
  | error e => exact first s
  | ok a => exact (rest a (x s).state).trans (first s)

theorem keeps_state_bind {f : σ → Action ε σ β} (rest : ∀ s, Keeps view (f s)) :
    Keeps view (state >>= f) :=
  fun s => rest s s

theorem keeps_ite {c : Prop} [Decidable c] {x y : Action ε σ α} (first : Keeps view x)
    (second : Keeps view y) : Keeps view (if c then x else y) := by
  split
  · exact first
  · exact second

/-- A step on a part keeps what does not lie in that part, whatever the step does. -/
theorem keeps_onPart {get : σ → τ} {put : τ → σ → σ} (kept : ∀ t s, view (put t s) = view s)
    (x : Action ε τ α) : Keeps view (onPart get put x) := by
  intro s
  rw [onPart_state]
  exact kept _ s

/-! ## Sequences regrouped -/

theorem pure_bind (a : α) (f : α → Action ε σ β) : (Pure.pure a >>= f : Action ε σ β) = f a :=
  rfl

theorem pure_bind' (a : α) (f : α → Action ε σ β) : (pure a >>= f : Action ε σ β) = f a :=
  rfl

theorem update_bind_apply (g : σ → σ) (f : Unit → Action ε σ α) (s : σ) :
    (update g >>= f) s = f () (g s) :=
  rfl

/-- The steps of a run may be grouped in any way. -/
theorem bind_assoc (x : Action ε σ α) (f : α → Action ε σ β) (g : β → Action ε σ γ) :
    (x >>= f) >>= g = x >>= fun a => f a >>= g := by
  funext s
  change bind (bind x f) g s = bind x (fun a => bind (f a) g) s
  unfold bind
  cases first : x s with
  | mk result s' notes =>
      cases result with
      | error e => rfl
      | ok a =>
          simp only
          cases second : f a s' with
          | mk result' s'' more =>
              cases result' with
              | error e => rfl
              | ok b => simp only [List.append_assoc]

end Action
end HostLink
