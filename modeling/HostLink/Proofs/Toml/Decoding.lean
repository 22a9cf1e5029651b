import HostLink.Proofs.OrderedMap
import HostLink.Toml.Decoding
import Mathlib.Data.List.Nodup

namespace HostLink
namespace Toml

/-!
# Values that were written are taken as what they were

A record is written as the members of those of its fields that are there.  A field is found by its
key, so it does not matter where its member stands.  What a field is taken as is what it was
written for, if that holds of the items and entries inside its value.
-/

/-! ## Members by their keys -/

theorem member?_eq_some_iff {ms : Members} (keys : (ms.map Prod.fst).Nodup) {key : String}
    {v : Value} : member? ms key = some v ↔ (key, v) ∈ ms := by
  unfold member?
  rw [Option.map_eq_some_iff]
  constructor
  · rintro ⟨⟨own, w⟩, first, rfl⟩
    have chosen := List.find?_some first
    rw [← beq_iff_eq.mp chosen]
    exact List.mem_of_find?_eq_some first
  · intro listed
    cases first : ms.find? (fun m => m.1 == key) with
    | none => exact absurd (beq_self_eq_true key) (List.find?_eq_none.mp first _ listed)
    | some m =>
        have chosen := List.find?_some first
        have same := List.inj_on_of_nodup_map keys (List.mem_of_find?_eq_some first) listed
          (beq_iff_eq.mp chosen)
        exact ⟨m, rfl, congrArg Prod.snd same⟩

/-- The order of members does not matter. -/
theorem member?_perm {ms ns : Members} (moved : ms.Perm ns) (keys : (ns.map Prod.fst).Nodup)
    (key : String) : member? ms key = member? ns key := by
  have own : (ms.map Prod.fst).Nodup := (moved.map Prod.fst).nodup_iff.mpr keys
  ext v
  rw [member?_eq_some_iff own, member?_eq_some_iff keys, moved.mem_iff]

/-! ## Records -/

/-- The members of the fields that are there. -/
def present (fields : List (String × Option Value)) : Members :=
  fields.filterMap (fun f => f.2.map (fun v => (f.1, v)))

section

variable {fields : List (String × Option Value)} {key : String}

theorem present_cons (key : String) (o : Option Value) (fields : List (String × Option Value)) :
    present ((key, o) :: fields) = (o.map (fun v => (key, v))).toList ++ present fields := by
  cases o <;> rfl

theorem mem_present_iff {v : Value} : (key, v) ∈ present fields ↔ (key, some v) ∈ fields := by
  unfold present
  rw [List.mem_filterMap]
  constructor
  · rintro ⟨⟨own, o⟩, listed, same⟩
    rcases Option.map_eq_some_iff.mp same with ⟨w, rfl, same⟩
    cases same
    exact listed
  · intro listed
    exact ⟨_, listed, rfl⟩

theorem keys_present_sublist (fields : List (String × Option Value)) :
    ((present fields).map Prod.fst).Sublist (fields.map Prod.fst) := by
  induction fields with
  | nil => exact .slnil
  | cons f fields inductionHypothesis =>
      rcases f with ⟨key, _ | v⟩
      · exact inductionHypothesis.cons key
      · exact inductionHypothesis.cons_cons key

theorem member?_present (keys : (fields.map Prod.fst).Nodup) {o : Option Value}
    (listed : (key, o) ∈ fields) : member? (present fields) key = o := by
  ext v
  rw [member?_eq_some_iff ((keys_present_sublist fields).nodup keys), mem_present_iff]
  constructor
  · intro written
    exact congrArg Prod.snd (List.inj_on_of_nodup_map keys listed written rfl)
  · rintro rfl
    exact listed

theorem member?_present_of_notMem (absent : key ∉ fields.map Prod.fst) :
    member? (present fields) key = none := by
  unfold member?
  rw [Option.map_eq_none_iff, List.find?_eq_none]
  intro m listed same
  have written : m.1 ∈ fields.map Prod.fst :=
    (keys_present_sublist fields).subset (List.mem_map_of_mem listed)
  exact absent (beq_iff_eq.mp same ▸ written)

end

/-! ## Kinds of values -/

/-- What is written for a value is taken as that value. -/
def Recovers {α : Type} (value? : Value → Option α) (toValue : α → Value) : Prop :=
  ∀ a, value? (toValue a) = some a

theorem recovers_text : Recovers asText? .text :=
  fun _ => rfl

theorem recovers_boolean : Recovers asBool? .boolean :=
  fun _ => rfl

theorem recovers_word : Recovers asWord? (fun n => .integer n.toNat) := by
  intro n
  have held : (0 : Int) ≤ n.toNat ∧ (n.toNat : Int).toNat < UInt32.size :=
    ⟨Int.natCast_nonneg _, n.toNat_lt⟩
  rw [asWord?, if_pos held, Int.toNat_natCast, UInt32.ofNat_toNat]

theorem mapM_map_eq_some {α β : Type} {f : α → β} {g : β → Option α}
    (back : ∀ a, g (f a) = some a) (items : List α) : (items.map f).mapM g = some items := by
  induction items with
  | nil => rfl
  | cons a items inductionHypothesis =>
      rw [List.map_cons, List.mapM_cons, back a, inductionHypothesis]
      rfl

section

variable {α : Type} {value? : Value → Option α} {toValue : α → Value}

theorem Recovers.list (back : Recovers value? toValue) :
    Recovers (asList? value?) (fun items => .array (items.map toValue)) :=
  mapM_map_eq_some back

theorem Recovers.map (back : Recovers value? toValue) :
    Recovers (asMap? value?) (fun m => .table (m.entries.map (fun x => (x.1, toValue x.2)))) := by
  intro m
  have entry : ∀ x : String × α, (value? (toValue x.2)).map (fun a => (x.1, a)) = some x :=
    fun x => congrArg (Option.map (fun a => (x.1, a))) (back x.2)
  have pairs := @mapM_map_eq_some (String × α) (String × Value) (fun x => (x.1, toValue x.2))
    (fun y => (value? y.2).map (fun a => (y.1, a))) entry m.entries
  simp only [asMap?, asMembers?, Option.bind_eq_bind, Option.bind_some, pairs, Option.pure_def,
    OrderedMap.ofList_entries]

variable {ms : Members} {key : String}

theorem Recovers.optional? (back : Recovers value? toValue) {o : Option α}
    (found : member? ms key = o.map toValue) : Toml.optional? ms key value? = some o := by
  rw [Toml.optional?, found]
  cases o with
  | none => rfl
  | some a => exact congrArg (Option.map some) (back a)

theorem Recovers.withDefault? (back : Recovers value? toValue) {a : α}
    (found : member? ms key = some (toValue a)) (usual : α) :
    Toml.withDefault? ms key value? usual = some a := by
  rw [Toml.withDefault?, @Recovers.optional? _ _ _ _ _ back (some a) found]
  rfl

end

end Toml
end HostLink
