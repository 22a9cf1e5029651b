import HostLink.Action

namespace HostLink
namespace Action

/-!
# How steps end

A run is opened one step at a time.  `Succeeds` relates the state in which a step starts to
its value and to the state it leaves; the notes it makes on the way are not looked at.  For
every way of building a step there is one equivalence that says when the composite succeeds
in terms of its parts, and together they turn a run into the list of facts that it passed.

A failing step leaves a state as well, so the equations for `bind` cover both endings.
-/

variable {ε σ τ α β : Type}

/-- The step succeeds with this value and leaves this state. -/
def Succeeds (x : Action ε σ α) (s : σ) (a : α) (s' : σ) : Prop :=
  (x s).result = .ok a ∧ (x s).state = s'

/-- A step whose result is a value succeeds with the state that it leaves. -/
theorem Succeeds.of_result {x : Action ε σ α} {s : σ} {a : α} (h : (x s).result = .ok a) :
    x.Succeeds s a (x s).state :=
  ⟨h, rfl⟩

/-- For a step without a value, the success is all that has to be known of its result. -/
theorem Succeeds.of_toBool {x : Action ε σ Unit} {s : σ} (h : (x s).result.toBool = true) :
    x.Succeeds s () (x s).state := by
  cases ending : (x s).result with
  | ok a => exact .of_result ending
  | error e =>
      rw [ending] at h
      cases h

theorem Succeeds.result {x : Action ε σ α} {s s' : σ} {a : α} (h : x.Succeeds s a s') :
    (x s).result = .ok a :=
  h.1

theorem Succeeds.state {x : Action ε σ α} {s s' : σ} {a : α} (h : x.Succeeds s a s') :
    (x s).state = s' :=
  h.2

/-! ## Both endings of a sequence -/

/-- The result of a sequence is that of its rest, started where the first step ended, unless
the first step fails. -/
theorem bind_result (x : Action ε σ α) (f : α → Action ε σ β) (s : σ) :
    ((x >>= f) s).result =
      match (x s).result with
      | .ok a => (f a (x s).state).result
      | .error e => .error e := by
  change (bind x f s).result = _
  simp only [bind]
  rcases x s with ⟨result, s', notes⟩
  cases result <;> rfl

/-- A failing first step leaves its state; there is no return to the start. -/
theorem bind_state (x : Action ε σ α) (f : α → Action ε σ β) (s : σ) :
    ((x >>= f) s).state =
      match (x s).result with
      | .ok a => (f a (x s).state).state
      | .error _ => (x s).state := by
  change (bind x f s).state = _
  simp only [bind]
  rcases x s with ⟨result, s', notes⟩
  cases result <;> rfl

theorem state_bind_apply (f : σ → Action ε σ β) (s : σ) : (state >>= f) s = f s s :=
  rfl

/-- A choice in front of a rest that both branches share. -/
theorem ite_bind (c : Prop) [Decidable c] (x y : Action ε σ α) (f : α → Action ε σ β) :
    (if c then x >>= f else y >>= f) = (if c then x else y) >>= f := by
  by_cases h : c
  · rw [if_pos h, if_pos h]
  · rw [if_neg h, if_neg h]

@[simp]
theorem ofExcept_result (r : Except ε α) (s : σ) : (ofExcept r s).result = r := by
  cases r <;> rfl

@[simp]
theorem ofExcept_state (r : Except ε α) (s : σ) : (ofExcept r s).state = s := by
  cases r <;> rfl

/-! ## Success of the ways to build a step -/

@[simp]
theorem succeeds_pure_iff {a b : α} {s s' : σ} :
    (Pure.pure b : Action ε σ α).Succeeds s a s' ↔ a = b ∧ s' = s := by
  simp only [Succeeds, pure_apply, Except.ok.injEq]
  exact and_congr eq_comm eq_comm

@[simp]
theorem succeeds_pure_iff' {a b : α} {s s' : σ} :
    (pure b : Action ε σ α).Succeeds s a s' ↔ a = b ∧ s' = s :=
  succeeds_pure_iff

/-- A sequence succeeds exactly if its first step does and its rest does from there on. -/
theorem succeeds_bind_iff {x : Action ε σ α} {f : α → Action ε σ β} {s s'' : σ} {b : β} :
    (x >>= f).Succeeds s b s'' ↔ ∃ a s', x.Succeeds s a s' ∧ (f a).Succeeds s' b s'' := by
  simp only [Succeeds, bind_result, bind_state]
  cases first : (x s).result with
  | error e => simp
  | ok a =>
      constructor
      · intro rest
        exact ⟨a, _, ⟨rfl, rfl⟩, rest⟩
      · rintro ⟨a', s', ⟨same, left⟩, rest⟩
        cases same
        subst left
        exact rest

@[simp]
theorem not_succeeds_fail {e : ε} {s s' : σ} {a : α} :
    ¬ (fail e : Action ε σ α).Succeeds s a s' := by
  rintro ⟨impossible, _⟩
  cases impossible

@[simp]
theorem succeeds_note_iff {severity : Severity} {text : String} {s s' : σ} {a : Unit} :
    (note severity text : Action ε σ Unit).Succeeds s a s' ↔ s' = s :=
  ⟨fun h => h.2.symm, fun h => ⟨rfl, h.symm⟩⟩

@[simp]
theorem succeeds_state_iff {s s' a : σ} :
    (state : Action ε σ σ).Succeeds s a s' ↔ a = s ∧ s' = s := by
  simp only [Succeeds, state_apply, Except.ok.injEq]
  exact and_congr eq_comm eq_comm

@[simp]
theorem succeeds_update_iff {f : σ → σ} {s s' : σ} {a : Unit} :
    (update f : Action ε σ Unit).Succeeds s a s' ↔ s' = f s :=
  ⟨fun h => h.2.symm, fun h => ⟨rfl, h.symm⟩⟩

@[simp]
theorem succeeds_ofExcept_iff {r : Except ε α} {s s' : σ} {a : α} :
    (ofExcept r : Action ε σ α).Succeeds s a s' ↔ r = .ok a ∧ s' = s := by
  simp only [Succeeds, ofExcept_result, ofExcept_state]
  exact and_congr_right (fun _ => eq_comm)

/-! ## A primitive step in front

In front of a rest, a primitive step needs no state in between: the rest starts from a state
that is known. -/

@[simp]
theorem succeeds_pure_bind_iff {a : α} {f : α → Action ε σ β} {s s' : σ} {b : β} :
    (pure a >>= f).Succeeds s b s' ↔ (f a).Succeeds s b s' := by
  simp only [succeeds_bind_iff, succeeds_pure_iff']
  exact ⟨fun ⟨_, _, ⟨rfl, rfl⟩, rest⟩ => rest, fun rest => ⟨a, s, ⟨rfl, rfl⟩, rest⟩⟩

@[simp]
theorem not_succeeds_fail_bind {e : ε} {f : α → Action ε σ β} {s s' : σ} {b : β} :
    ¬ (fail e >>= f).Succeeds s b s' := by
  rw [succeeds_bind_iff]
  rintro ⟨_, _, impossible, _⟩
  exact not_succeeds_fail impossible

@[simp]
theorem succeeds_note_bind_iff {severity : Severity} {text : String}
    {f : Unit → Action ε σ β} {s s' : σ} {b : β} :
    (note severity text >>= f).Succeeds s b s' ↔ (f ()).Succeeds s b s' := by
  simp only [succeeds_bind_iff, succeeds_note_iff]
  exact ⟨fun ⟨_, _, rfl, rest⟩ => rest, fun rest => ⟨(), s, rfl, rest⟩⟩

@[simp]
theorem succeeds_state_bind_iff {f : σ → Action ε σ β} {s s' : σ} {b : β} :
    (state >>= f).Succeeds s b s' ↔ (f s).Succeeds s b s' := by
  simp only [succeeds_bind_iff, succeeds_state_iff]
  exact ⟨fun ⟨_, _, ⟨rfl, rfl⟩, rest⟩ => rest, fun rest => ⟨s, s, ⟨rfl, rfl⟩, rest⟩⟩

@[simp]
theorem succeeds_update_bind_iff {g : σ → σ} {f : Unit → Action ε σ β} {s s' : σ} {b : β} :
    (update g >>= f).Succeeds s b s' ↔ (f ()).Succeeds (g s) b s' := by
  simp only [succeeds_bind_iff, succeeds_update_iff]
  exact ⟨fun ⟨_, _, rfl, rest⟩ => rest, fun rest => ⟨(), g s, rfl, rest⟩⟩

@[simp]
theorem succeeds_ofExcept_bind_iff {r : Except ε α} {f : α → Action ε σ β} {s s' : σ} {b : β} :
    (ofExcept r >>= f).Succeeds s b s' ↔ ∃ a, r = .ok a ∧ (f a).Succeeds s b s' := by
  simp only [succeeds_bind_iff, succeeds_ofExcept_iff]
  exact ⟨fun ⟨a, _, ⟨known, rfl⟩, rest⟩ => ⟨a, known, rest⟩,
    fun ⟨a, known, rest⟩ => ⟨a, s, ⟨known, rfl⟩, rest⟩⟩

/-! ## Steps on a part and steps over a list -/

@[simp]
theorem onPart_result (get : σ → τ) (put : τ → σ → σ) (x : Action ε τ α) (s : σ) :
    (onPart get put x s).result = (x (get s)).result := by
  simp only [onPart]

@[simp]
theorem onPart_state (get : σ → τ) (put : τ → σ → σ) (x : Action ε τ α) (s : σ) :
    (onPart get put x s).state = put (x (get s)).state s := by
  simp only [onPart]

/-- A step on a part succeeds as it does on that part alone, and only the part is new. -/
@[simp]
theorem succeeds_onPart_iff {get : σ → τ} {put : τ → σ → σ} {x : Action ε τ α} {s s' : σ}
    {a : α} :
    (onPart get put x).Succeeds s a s' ↔ ∃ t, x.Succeeds (get s) a t ∧ s' = put t s := by
  simp only [Succeeds, onPart_result, onPart_state]
  constructor
  · rintro ⟨done, left⟩
    exact ⟨_, ⟨done, rfl⟩, left.symm⟩
  · rintro ⟨t, ⟨done, part⟩, left⟩
    exact ⟨done, by rw [part, left]⟩

@[simp]
theorem succeeds_forEach_nil_iff {f : β → Action ε σ Unit} {s s' : σ} {a : Unit} :
    (forEach f []).Succeeds s a s' ↔ s' = s := by
  simp only [forEach, succeeds_pure_iff', true_and]

@[simp]
theorem succeeds_forEach_cons_iff {f : β → Action ε σ Unit} {b : β} {rest : List β}
    {s s'' : σ} {a : Unit} :
    (forEach f (b :: rest)).Succeeds s a s'' ↔
      ∃ s', (f b).Succeeds s () s' ∧ (forEach f rest).Succeeds s' a s'' := by
  change (f b >>= fun _ => forEach f rest).Succeeds s a s'' ↔ _
  rw [succeeds_bind_iff]
  exact ⟨fun ⟨_, s', head, tail⟩ => ⟨s', head, tail⟩, fun ⟨s', head, tail⟩ => ⟨(), s', head, tail⟩⟩

/-- Notes alone change no state. -/
theorem succeeds_forEach_note_iff {severity : Severity} {wording : β → String} {bs : List β}
    {s s' : σ} {a : Unit} :
    (forEach (fun b => note severity (wording b)) bs : Action ε σ Unit).Succeeds s a s' ↔
      s' = s := by
  induction bs with
  | nil => exact succeeds_forEach_nil_iff
  | cons b rest inductionHypothesis =>
      rw [succeeds_forEach_cons_iff]
      simp only [succeeds_note_iff, exists_eq_left]
      exact inductionHypothesis

end Action

/-! ## Sequences without a state -/

section Except

variable {α β ε : Type} {x : Except ε α} {f : α → Except ε β}

theorem bind_eq_ok_iff {b : β} : (x >>= f) = .ok b ↔ ∃ a, x = .ok a ∧ f a = .ok b := by
  cases x with
  | error e =>
      constructor
      · intro impossible
        cases impossible
      · rintro ⟨a, impossible, _⟩
        cases impossible
  | ok a =>
      constructor
      · intro done
        exact ⟨a, rfl, done⟩
      · rintro ⟨a', same, later⟩
        cases same
        exact later

/-- A sequence fails with its first step or after it. -/
theorem bind_eq_error_iff {e : ε} :
    (x >>= f) = .error e ↔ x = .error e ∨ ∃ a, x = .ok a ∧ f a = .error e := by
  cases x with
  | error e' =>
      constructor
      · intro failed
        exact Or.inl (congrArg Except.error (Except.error.inj failed))
      · rintro (failed | ⟨a, impossible, _⟩)
        · exact congrArg Except.error (Except.error.inj failed)
        · cases impossible
  | ok a =>
      constructor
      · intro failed
        exact Or.inr ⟨a, rfl, failed⟩
      · rintro (impossible | ⟨a', same, later⟩)
        · cases impossible
        · cases same
          exact later

end Except

end HostLink
