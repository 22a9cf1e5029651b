import HostLink.Proofs.Action

namespace HostLink

/-!
# Two runs side by side

Whether a result depends on something is seen by comparing two runs that differ in it.  Two
outcomes match if both are failures for the same cause or both are successes with related
values, and if the states that they leave are related in either case.  What was noted on the
way is not compared.

Two steps match if they take related states to outcomes that match.  For every way of building
a step there is one lemma here, so the comparison of two long runs is put together like the
runs themselves.
-/

variable {ε σ τ υ α β γ δ : Type}

/-- Outcomes that are the same up to what the two relations allow. -/
structure Outcome.Matches (states : σ → τ → Prop) (values : α → β → Prop) (x : Outcome ε σ α)
    (y : Outcome ε τ β) : Prop where
  result : (∃ e, x.result = .error e ∧ y.result = .error e) ∨
    ∃ a b, x.result = .ok a ∧ y.result = .ok b ∧ values a b
  state : states x.state y.state

namespace Action

/-- Steps that take related states to outcomes that match. -/
def Matches (states : σ → τ → Prop) (values : α → β → Prop) (x : Action ε σ α)
    (y : Action ε τ β) : Prop :=
  ∀ s t, states s t → (x s).Matches states values (y t)

variable {states : σ → τ → Prop} {values : α → β → Prop}

/-- Steps that cannot fail match if their values and the states they leave are related. -/
theorem matches_of_succeeds {x : Action ε σ α} {y : Action ε τ β}
    (succeed : ∀ s t, states s t → ∃ a s' b t',
      x.Succeeds s a s' ∧ y.Succeeds t b t' ∧ values a b ∧ states s' t') :
    x.Matches states values y := by
  intro s t related
  rcases succeed s t related with ⟨a, _, b, _, ⟨done, rfl⟩, ⟨done', rfl⟩, valued, left⟩
  exact ⟨Or.inr ⟨a, b, done, done', valued⟩, left⟩

theorem matches_pure {a : α} {b : β} (valued : values a b) :
    (Pure.pure a : Action ε σ α).Matches states values (Pure.pure b) :=
  fun _ _ related => ⟨Or.inr ⟨a, b, rfl, rfl, valued⟩, related⟩

theorem matches_pure' {a : α} {b : β} (valued : values a b) :
    (pure a : Action ε σ α).Matches states values (pure b) :=
  matches_pure valued

theorem matches_fail (e : ε) : (fail e : Action ε σ α).Matches states values (fail e) :=
  fun _ _ related => ⟨Or.inl ⟨e, rfl, rfl⟩, related⟩

theorem matches_ofExcept {α : Type} (r : Except ε α) :
    (ofExcept r : Action ε σ α).Matches states Eq (ofExcept r) := by
  cases r with
  | ok a => exact matches_pure' rfl
  | error e => exact matches_fail e

theorem matches_update {f : σ → σ} {g : τ → τ}
    (kept : ∀ s t, states s t → states (f s) (g t)) :
    (update f : Action ε σ Unit).Matches states Eq (update g) :=
  fun s t related => ⟨Or.inr ⟨(), (), rfl, rfl, rfl⟩, kept s t related⟩

/-- Sequences match if their first steps do and their rests do for related values. -/
theorem matches_bind {later : γ → δ → Prop} {x : Action ε σ α} {y : Action ε τ β}
    {f : α → Action ε σ γ} {g : β → Action ε τ δ} (first : x.Matches states values y)
    (rest : ∀ a b, values a b → (f a).Matches states later (g b)) :
    (x >>= f).Matches states later (y >>= g) := by
  intro s t related
  rcases first s t related with ⟨⟨e, failed, failed'⟩ | ⟨a, b, done, done', valued⟩, left⟩
  · refine ⟨Or.inl ⟨e, ?_, ?_⟩, ?_⟩
    · rw [bind_result, failed]
    · rw [bind_result, failed']
    · rw [bind_state, bind_state, failed, failed']
      exact left
  · rcases rest a b valued _ _ left with ⟨result, left'⟩
    refine ⟨?_, ?_⟩
    · rw [bind_result, bind_result, done, done']
      exact result
    · rw [bind_state, bind_state, done, done']
      exact left'

/-- Sequences match that start with the same step without a value to speak of. -/
theorem matches_bind_unit {later : γ → δ → Prop} {x : Action ε σ Unit} {y : Action ε τ Unit}
    {f : Unit → Action ε σ γ} {g : Unit → Action ε τ δ} (first : x.Matches states Eq y)
    (rest : (f ()).Matches states later (g ())) :
    (x >>= f).Matches states later (y >>= g) :=
  matches_bind first (fun _ _ _ => rest)

/-- Notes in front of the rest are not compared. -/
theorem matches_note_bind {later : γ → δ → Prop} {severity severity' : Severity}
    {text text' : String} {f : Unit → Action ε σ γ} {g : Unit → Action ε τ δ}
    (rest : (f ()).Matches states later (g ())) :
    (note severity text >>= f).Matches states later (note severity' text' >>= g) := by
  refine matches_bind_unit (matches_of_succeeds ?_) rest
  intro s t related
  exact ⟨(), s, (), t, ⟨rfl, rfl⟩, ⟨rfl, rfl⟩, rfl, related⟩

/-- Steps that look at their states first match if they do for all related ones. -/
theorem matches_state_bind {later : γ → δ → Prop} {f : σ → Action ε σ γ} {g : τ → Action ε τ δ}
    (rest : ∀ s t, states s t → (f s).Matches states later (g t)) :
    (state >>= f).Matches states later (state >>= g) :=
  fun s t related => rest s t related s t related

/-- The same step on the same part does the same. -/
theorem matches_onPart {get : σ → υ} {put : υ → σ → σ} {get' : τ → υ} {put' : υ → τ → τ}
    {x : Action ε υ γ} (same : ∀ s t, states s t → get s = get' t)
    (kept : ∀ part s t, states s t → states (put part s) (put' part t)) :
    (onPart get put x).Matches states Eq (onPart get' put' x) := by
  intro s t related
  refine ⟨?_, ?_⟩
  · rw [onPart_result, onPart_result, same s t related]
    cases (x (get' t)).result with
    | error e => exact Or.inl ⟨e, rfl, rfl⟩
    | ok a => exact Or.inr ⟨a, a, rfl, rfl, rfl⟩
  · rw [onPart_state, onPart_state, same s t related]
    exact kept _ s t related

end Action
end HostLink
