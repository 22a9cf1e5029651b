import HostLink.OrderedMap

namespace HostLink

/-!
# Maps that are built from pairs

When pairs are bound one after another, the last one of a key counts.  Mostly the pairs agree on
a key, and then their order does not matter: the key has the one value that they give it, or
the value from before if they do not bind it.

A map is known by its look-ups, so a map is rebuilt from its own entries.
-/

namespace OrderedMap

/-- The value that the last pair of a key gives it. -/
def lastBound? {κ α : Type} [DecidableEq κ] (key : κ) (pairs : List (κ × α)) : Option α :=
  ((pairs.filter (fun x => x.1 = key)).getLast?).map Prod.snd

theorem lastBound?_cons {κ α : Type} [DecidableEq κ] (key : κ) (x : κ × α)
    (pairs : List (κ × α)) :
    lastBound? key (x :: pairs) =
      (lastBound? key pairs).or (if x.1 = key then some x.2 else none) := by
  unfold lastBound?
  by_cases own : x.1 = key
  · have kept : (x :: pairs).filter (fun y => y.1 = key) =
        [x] ++ pairs.filter (fun y => y.1 = key) := by
      simp [own]
    rw [kept, List.getLast?_append, if_pos own]
    cases (pairs.filter (fun y => y.1 = key)).getLast? <;> rfl
  · have passed : (x :: pairs).filter (fun y => y.1 = key) =
        pairs.filter (fun y => y.1 = key) := by
      simp [own]
    rw [passed, if_neg own, Option.or_none]

theorem mem_of_lastBound? {κ α : Type} [DecidableEq κ] {key : κ} {value : α}
    {pairs : List (κ × α)} (bound : lastBound? key pairs = some value) : (key, value) ∈ pairs := by
  rcases Option.map_eq_some_iff.mp bound with ⟨⟨own, _⟩, last, rfl⟩
  rcases List.mem_filter.mp (List.mem_of_getLast? last) with ⟨listed, same⟩
  cases of_decide_eq_true same
  exact listed

variable {κ α : Type} [KeyOrder κ]

theorem insertAll_cons (m : OrderedMap κ α) (x : κ × α) (pairs : List (κ × α)) :
    m.insertAll (x :: pairs) = (m.insert x.1 x.2).insertAll pairs :=
  rfl

/-- A key that no pair binds keeps its value. -/
theorem find?_insertAll_of_notMem (m : OrderedMap κ α) {pairs : List (κ × α)} {key : κ}
    (unbound : ∀ value, (key, value) ∉ pairs) :
    (m.insertAll pairs).find? key = m.find? key := by
  induction pairs generalizing m with
  | nil => rfl
  | cons x pairs inductionHypothesis =>
      have other : x.1 ≠ key := by
        rintro rfl
        exact unbound x.2 List.mem_cons_self
      rw [insertAll_cons, inductionHypothesis _
        (fun value listed => unbound value (List.mem_cons_of_mem _ listed)),
        find?_insert_of_ne m other]

/-- A key that is bound to one value only has that value, however often it is bound. -/
theorem find?_insertAll_of_unique (m : OrderedMap κ α) {pairs : List (κ × α)} {key : κ}
    {value : α} (bound : (key, value) ∈ pairs)
    (unique : ∀ other, (key, other) ∈ pairs → other = value) :
    (m.insertAll pairs).find? key = some value := by
  induction pairs generalizing m with
  | nil => cases bound
  | cons x pairs inductionHypothesis =>
      have later : ∀ other, (key, other) ∈ pairs → other = value :=
        fun other listed => unique other (List.mem_cons_of_mem _ listed)
      rw [insertAll_cons]
      by_cases again : (key, value) ∈ pairs
      · exact inductionHypothesis _ again later
      · have unbound : ∀ other, (key, other) ∉ pairs := by
          intro other listed
          have same := later other listed
          rw [same] at listed
          exact again listed
        rw [find?_insertAll_of_notMem _ unbound]
        rcases List.mem_cons.mp bound with same | listed
        · rw [← same]
          exact find?_insert_self m key value
        · exact absurd listed again

/-- Whatever is bound afterwards was bound before, or is bound by one of the pairs. -/
theorem bound_of_insertAll {m : OrderedMap κ α} {pairs : List (κ × α)} {key : κ} {value : α}
    (found : (m.insertAll pairs).find? key = some value) :
    (key, value) ∈ pairs ∨ m.find? key = some value := by
  induction pairs generalizing m with
  | nil => exact Or.inr found
  | cons x pairs inductionHypothesis =>
      rw [insertAll_cons] at found
      rcases inductionHypothesis found with later | before
      · exact Or.inl (List.mem_cons_of_mem _ later)
      · by_cases same : x.1 = key
        · subst same
          rw [find?_insert_self] at before
          cases before
          exact Or.inl List.mem_cons_self
        · rw [find?_insert_of_ne m same] at before
          exact Or.inr before

theorem mem_values_iff (m : OrderedMap κ α) {value : α} :
    value ∈ m.values ↔ ∃ key, m.find? key = some value := by
  unfold values
  rw [List.mem_map]
  constructor
  · rintro ⟨⟨key, other⟩, listed, same⟩
    cases same
    exact ⟨key, (find?_eq_some_iff m).mpr listed⟩
  · rintro ⟨key, found⟩
    exact ⟨(key, value), (find?_eq_some_iff m).mp found, rfl⟩

theorem nodup_keys (m : OrderedMap κ α) : m.keys.Nodup := by
  unfold OrderedMap.keys
  rw [List.Nodup, List.pairwise_map]
  exact m.sorted.imp (fun before => KeyOrder.ne_of_before before)

/-- Where every value tells its key, the values tell the keys, and each of them once. -/
theorem nodup_values (m : OrderedMap κ α) {keyOf : α → κ}
    (told : ∀ key value, m.find? key = some value → keyOf value = key) :
    (m.values.map keyOf).Nodup := by
  have keys : m.values.map keyOf = m.keys := by
    unfold values OrderedMap.keys
    rw [List.map_map]
    apply List.map_congr_left
    intro x listed
    exact told x.1 x.2 ((find?_eq_some_iff m).mpr listed)
  rw [keys]
  exact m.nodup_keys

/-! ## The last pair counts -/

/-- Pairs that are bound one after another leave the value of the last one of a key, and the
value from before where there is none. -/
theorem find?_insertAll [DecidableEq κ] (m : OrderedMap κ α) (pairs : List (κ × α)) (key : κ) :
    (m.insertAll pairs).find? key = (lastBound? key pairs).or (m.find? key) := by
  induction pairs generalizing m with
  | nil => rfl
  | cons x pairs inductionHypothesis =>
      rw [insertAll_cons, inductionHypothesis, lastBound?_cons, Option.or_assoc]
      by_cases own : x.1 = key
      · rw [if_pos own, ← own, find?_insert_self, Option.some_or]
      · rw [if_neg own, find?_insert_of_ne m own, Option.none_or]

theorem find?_ofList [DecidableEq κ] (pairs : List (κ × α)) (key : κ) :
    (ofList pairs).find? key = lastBound? key pairs := by
  rw [ofList, find?_insertAll, find?_empty, Option.or_none]

/-! ## A map is known by its look-ups -/

theorem nodup_entries (m : OrderedMap κ α) : m.entries.Nodup :=
  m.sorted.imp (fun before same => KeyOrder.ne_of_before before (congrArg Prod.fst same))

/-- Maps with the same look-ups are equal, since their entries stand in the order of the keys. -/
theorem eq_of_find? {m n : OrderedMap κ α} (same : ∀ key, m.find? key = n.find? key) : m = n := by
  have members : ∀ x, x ∈ m.entries ↔ x ∈ n.entries := by
    intro x
    rw [← find?_eq_some_iff m, ← find?_eq_some_iff n, same]
  apply ext
  apply List.Perm.eq_of_pairwise ?_ m.sorted n.sorted
  · exact (List.perm_ext_iff_of_nodup m.nodup_entries n.nodup_entries).mpr members
  · intro x y _ _ first second
    rw [KeyOrder.asymm first] at second
    cases second

theorem ofList_entries (m : OrderedMap κ α) : ofList m.entries = m := by
  apply eq_of_find?
  intro key
  unfold ofList
  cases found : m.find? key with
  | some value =>
      have bound := (find?_eq_some_iff m).mp found
      refine find?_insertAll_of_unique empty bound ?_
      intro other listed
      exact Option.some.inj (((find?_eq_some_iff m).mpr listed).symm.trans found)
  | none =>
      refine find?_insertAll_of_notMem empty ?_
      intro value listed
      rw [(find?_eq_some_iff m).mpr listed] at found
      cases found

/-- Of two maps over each other the upper one counts. -/
theorem find?_overlay [DecidableEq κ] (m n : OrderedMap κ α) (key : κ) :
    (m.overlay n).find? key = (n.find? key).or (m.find? key) := by
  have last : lastBound? key n.entries = n.find? key := by
    rw [← find?_ofList, ofList_entries]
  rw [overlay, find?_insertAll, last]

end OrderedMap

end HostLink
