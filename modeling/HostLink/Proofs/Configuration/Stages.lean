import HostLink.Proofs.Configuration.LinkOrder
import HostLink.Proofs.Configuration.Preferences
import HostLink.Proofs.Machine.Places

namespace HostLink
namespace Configure

/-!
# The stages of a configuration

A configuration shows two things of its run: the host that the hooks left, and the context that
the resolution made of it.  The link line and the symbols are functions of these.

For a machine that a file describes the first stage has two parts again.  The places of the file
are used, and what follows are relocations only.
-/

/-- What a machine puts behind the resolution, from the profile that the hooks leave. -/
def machineLine (b : Build) (root : Path) (p : Profile) : LinkLine where
  includePaths := p.includePaths
  libPaths := intelLibPaths b root p ++ p.libPaths.map (Path.absolute root)
  libraries := p.libraries ++ numerics b p ++ ["dl"]

/-- The link line and the symbols of a configuration, from the stages of its run. -/
theorem stages_of_configure {m : Machine} {options : Options} {session : Session}
    {c : Configuration} (configured : (configure m options session).result = .ok c) :
    ∃ h resolved,
      (adjustments m session.build options.root).Succeeds ⟨session.tree, m.profile⟩ () h ∧
      (firstResolution h.tree session.build).Succeeds
        (Context.start h.profile options.root options.skipPetsc) c.petscRelease resolved ∧
      c.line = resolved.line ++ machineLine session.build options.root h.profile ∧
      c.symbols = h.profile.symbolList := by
  rcases Action.succeeds_onPart_iff.mp (Action.Succeeds.of_result configured) with ⟨s', run, _⟩
  rcases succeeds_steps_iff.mp run with
    ⟨h, release, resolved, intel, paths, b, adjusted, first, found, _, _, left, same⟩
  rcases extended_of_succeeds_first first with ⟨tools, more, extended⟩
  have line := (line_of_succeeds_intel found).2
  subst left same extended
  refine ⟨h, _, adjusted, first, ?_, ?_⟩
  · simp only [concluded, withMachinePaths, line]
    simp only [withMachineLibraries, Context.addLibPaths, LinkLine.addLibPaths,
      Context.addIncludes, LinkLine.addIncludes, Context.addLibraries, LinkLine.addLibraries,
      LinkLine.append_def, machineLine, List.append_assoc]
    rfl
  · simp only [concluded, withMachinePaths, line]
    rfl

/-- After the places only relocations are left to do. -/
theorem framed_of_preferenceAdjustment {d : MachineDescription} {id : String}
    {source : MachineSource} {preferences : Preferences} {root : Path} {h h' : Host}
    (rooted : root.isAbsolute = true)
    (adjusted :
      (preferenceAdjustment (d.toMachine id source) preferences root).Succeeds h () h') :
    h.Framed h' := by
  cases asked : preferences.isEmpty with
  | true =>
      unfold preferenceAdjustment at adjusted
      rw [if_pos asked] at adjusted
      rw [(Action.succeeds_pure_iff'.mp adjusted).2]
      exact .refl h
  | false =>
      rcases switched_of_succeeds asked adjusted with ⟨_, switched⟩ | ⟨_, same⟩
      · exact .of_switchAll rooted (VersionTable.succeeds_switch_iff.mp switched)
      · rw [same]
        exact .refl h

/-- The first hook of a machine file uses its places. -/
theorem used_of_firstAdjustment {d : MachineDescription} {id : String} {source : MachineSource}
    {b : Build} {root : Path} {h h' : Host}
    (adjusted : (firstAdjustment (d.toMachine id source) b root).Succeeds h () h') :
    (d.places.use root).Succeeds h () h' := by
  unfold firstAdjustment MachineDescription.toMachine at adjusted
  cases absent : d.places.isEmpty with
  | true =>
      simp only [absent, if_true] at adjusted
      rw [(Action.succeeds_pure_iff'.mp adjusted).2]
      exact Places.succeeds_use_of_isEmpty absent root h
  | false =>
      simp only [absent, Bool.false_eq_true, if_false] at adjusted
      exact adjusted

/-- The hooks of a machine file use its places, and then they relocate. -/
theorem used_of_adjustments {d : MachineDescription} {id : String} {source : MachineSource}
    {b : Build} {root : Path} {h h' : Host} (rooted : root.isAbsolute = true)
    (adjusted : (adjustments (d.toMachine id source) b root).Succeeds h () h') :
    ∃ h₀, (d.places.use root).Succeeds h () h₀ ∧ h₀.Framed h' := by
  cases dealii : b.usingDealii with
  | true =>
      unfold adjustments at adjusted
      simp only [dealii, if_true] at adjusted
      rcases Action.succeeds_bind_iff.mp adjusted with ⟨_, h₀, first, rest⟩
      rw [(Action.succeeds_pure_iff'.mp rest).2]
      exact ⟨h₀, used_of_firstAdjustment first, .refl h₀⟩
  | false =>
      rcases (succeeds_adjustments_iff dealii).mp adjusted with ⟨h₀, first, rest⟩
      exact ⟨h₀, used_of_firstAdjustment first, framed_of_preferenceAdjustment rooted rest⟩

end Configure
end HostLink
