import HostLink.Machine.Catalogue

namespace HostLink
namespace Machine

/-!
# The machines there are

The hooks of a machine are arbitrary functions, but machines only come from two places, and
neither of them makes use of that.  A built-in machine has at most a hook for the versions asked
for.  A machine that a file describes can also relocate libraries before anything is resolved,
always to the places of the file.  So no such machine looks at the build, except for the
versions, and none has a hook that changes it.
-/

/-- A machine that is built in or described by a file. -/
inductive Supplied : Machine → Prop
  | builtIn {env : Environment} {id : String} {m : Machine}
      (registered : Catalogue.usual.find? env id = some m) : Supplied m
  | described (d : MachineDescription) (id : String) (source : MachineSource) :
      Supplied (d.toMachine id source)

/-- A machine that does the same before every resolution and has no hook for the build. -/
structure Steady (m : Machine) : Prop where
  first : m.onConfigure = none ∨
    ∃ adjustment : Path → Adjustment Unit, m.onConfigure = some (fun _ _ root => adjustment root)
  last : m.onModifyBuild = none

theorem steady_of_find?_usual {env : Environment} {id : String} {m : Machine}
    (registered : Catalogue.usual.find? env id = some m) : m.Steady := by
  rcases Option.map_eq_some_iff.mp registered with ⟨entry, bound, rfl⟩
  have listed := (OrderedMap.find?_eq_some_iff _).mp bound
  change (id, entry) ∈ [("debian", _), ("default", _), ("ubuntu", _)] at listed
  simp only [List.mem_cons, List.not_mem_nil, or_false, Prod.mk.injEq] at listed
  rcases listed with ⟨_, rfl⟩ | ⟨_, rfl⟩ | ⟨_, rfl⟩
  · exact ⟨Or.inl rfl, rfl⟩
  · exact ⟨Or.inl rfl, rfl⟩
  · exact ⟨Or.inl rfl, rfl⟩

theorem steady_toMachine (d : MachineDescription) (id : String) (source : MachineSource) :
    (d.toMachine id source).Steady := by
  refine ⟨?_, rfl⟩
  unfold MachineDescription.toMachine
  cases d.places.isEmpty with
  | true => exact Or.inl rfl
  | false => exact Or.inr ⟨d.places.use, rfl⟩

theorem Supplied.steady {m : Machine} (supplied : m.Supplied) : m.Steady := by
  cases supplied with
  | builtIn registered => exact steady_of_find?_usual registered
  | described d id source => exact steady_toMachine d id source

end Machine
end HostLink
