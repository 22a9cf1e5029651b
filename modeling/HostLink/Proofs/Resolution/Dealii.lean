import HostLink.Proofs.FileTree
import HostLink.Proofs.Resolution.Petsc
import HostLink.Resolution.Dealii

namespace HostLink

/-!
# What a resolution of Deal.II leaves behind

Deal.II puts its own directories and libraries behind those of the PETSc that it needs.  The
resolution of PETSc inside is the one proved about on its own, so the equivalence below
relates the two resolutions and says nothing of PETSc again.
-/

namespace Dealii

/-- The resolution of PETSc that Deal.II asks for: headers of 2.3 for version 6, and all of
2.2 for older versions. -/
def petsc (t : FileTree) (b : Build) (six : Bool) :
    Action Misconfiguration Context (Option PetscRelease) :=
  Petsc.resolve t (if six then "2.3" else "2.2") (Flavour.ofFlags b.optimised false false) six

theorem petsc_eq (t : FileTree) (b : Build) (six : Bool) :
    petsc t b six =
      if six then Petsc.resolve t "2.3" (Flavour.ofFlags b.optimised false false) true
      else Petsc.resolve t "2.2" (Flavour.ofFlags b.optimised false false) false := by
  cases six <;> rfl

/-- What Deal.II itself adds. -/
def contribution (base : Path) (six debugging : Bool) : LinkLine where
  includePaths := headerDirs.map base.child
  libPaths := [base.child "lib"]
  libraries := libraries six debugging

/-- Deal.II succeeds exactly if it is configured, its version can be read, and the PETSc it
asks for is found.  Its own part comes behind that of PETSc in all three lists. -/
theorem succeeds_resolve_iff {t : FileTree} {b : Build} {c c' : Context} {a : Unit} :
    (resolve t b).Succeeds c a c' ↔
      ∃ path version release d,
        c.profile.dealii = some path ∧
        t.present (c.absolute path) = true ∧
        statedVersion t (c.absolute path) = .ok version ∧
        (petsc t b (Text.startsWith "6." version)).Succeeds c release d ∧
        c' = { d with line := d.line ++
          contribution (c.absolute path) (Text.startsWith "6." version) b.dealiiDebugging } := by
  unfold resolve
  rw [Action.succeeds_state_bind_iff]
  cases configured : c.profile.dealii with
  | none => simp
  | some path =>
      simp only [Action.succeeds_ofExcept_bind_iff, FileTree.require_eq_ok_iff,
        Action.succeeds_note_bind_iff, Action.ite_bind, ← petsc_eq]
      simp only [Action.succeeds_bind_iff, Action.succeeds_update_iff]
      constructor
      · rintro ⟨_, present, version, stated, release, d, found, left⟩
        exact ⟨path, version, release, d, rfl, present, stated, found, left⟩
      · rintro ⟨_, version, release, d, same, present, stated, found, left⟩
        cases same
        exact ⟨(), present, version, stated, release, d, found, left⟩

/-- As with PETSc alone, only the tools and the link line change. -/
theorem extended_of_succeeds {t : FileTree} {b : Build} {c c' : Context} {a : Unit}
    (resolved : (resolve t b).Succeeds c a c') : ∃ tools more, c' = c.extended tools more := by
  rcases succeeds_resolve_iff.mp resolved with ⟨path, version, release, d, _, _, _, inner, same⟩
  rcases Petsc.extended_of_succeeds inner with ⟨tools, more, left⟩
  refine ⟨tools, more ++
    contribution (c.absolute path) (Text.startsWith "6." version) b.dealiiDebugging, ?_⟩
  rw [same, left]
  simp only [Context.extended, LinkLine.append_def, List.append_assoc]

end Dealii
end HostLink
