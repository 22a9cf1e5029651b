import HostLink.Proofs.Action
import HostLink.Proofs.Text.Digit
import HostLink.Proofs.Text.Utf8
import HostLink.Sundials

namespace HostLink
namespace Sundials

/-!
# What a header says about its version

A header is a text of bytes, and only its lines that begin with the definition of the version
matter, with three runs of digits between the quotes.  The first of them is binding.  If its
numbers cannot be read or packed, the header is refused, whatever other lines say.

Numbers are packed step by step, and each step may find its result too large.  Since every
step adds to what it has, one of them does exactly if the packed number itself is too large.
-/

/-! ## Lines that state a version -/

/-- Digits that stand together, in any of the alphabets that have some. -/
structure IsRun (digits : List Char) : Prop where
  nonempty : digits ≠ []
  decimal : ∀ c ∈ digits, Text.isDecimalDigit c = true

/-- Three parts of a version between points, up to the closing quote. -/
def written (major minor patch : List Char) : List Char :=
  major ++ '.' :: (minor ++ '.' :: (patch ++ ['\"']))

/-- A line begins with the definition of a version that has these parts. -/
structure States (line : List UInt8) (major minor patch : List Char) : Prop where
  majorDigits : IsRun major
  minorDigits : IsRun minor
  patchDigits : IsRun patch
  begins : definition ++ Text.utf8Bytes (written major minor patch) <+: line

/-- What comes behind a run of digits ends it. -/
theorem digits?_eq_some_iff {text found rest : List Char} :
    digits? text = some (found, rest) ↔
      IsRun found ∧ text = found ++ rest ∧ rest.head?.any Text.isDecimalDigit = false := by
  unfold digits?
  split
  · rename_i none
    have own := (Text.span_eq_iff.mp none).2
    constructor
    · intro impossible
      cases impossible
    · rintro ⟨run, whole, _⟩
      cases found with
      | nil => exact absurd rfl run.nonempty
      | cons c found =>
          rw [List.nil_append] at own
          rw [← own.1, whole, List.cons_append] at own
          have digit := run.decimal c List.mem_cons_self
          have other : Text.isDecimalDigit c = false := own.2
          rw [digit] at other
          cases other
  · rename_i found' rest' notEmpty same
    rw [Option.some.injEq]
    constructor
    · intro both
      cases both
      have own := Text.span_eq_iff.mp same
      exact ⟨⟨notEmpty, own.1⟩, own.2⟩
    · rintro ⟨run, whole, ending⟩
      exact same.symm.trans (Text.span_eq_iff.mpr ⟨run.decimal, whole, ending⟩)

theorem sign?_eq_some_iff {c : Char} {text rest : List Char} :
    sign? c text = some rest ↔ text = c :: rest := by
  cases text with
  | nil => simp [sign?]
  | cons d text =>
      simp only [sign?, List.cons.injEq]
      by_cases same : d = c
      · simp [same]
      · simp [same]

/-- The parts are read from a text exactly if it begins with them. -/
theorem parts?_eq_some_iff {text major minor patch : List Char} :
    parts? text = some (major, minor, patch) ↔
      IsRun major ∧ IsRun minor ∧ IsRun patch ∧
        ∃ more, text = written major minor patch ++ more := by
  have point : Text.isDecimalDigit '.' = false := by decide
  have quote : Text.isDecimalDigit '\"' = false := by decide
  unfold parts? written
  simp only [Option.bind_eq_bind, Option.bind_eq_some_iff, Option.pure_def, Option.some.injEq,
    Prod.exists, Prod.mk.injEq, digits?_eq_some_iff, sign?_eq_some_iff]
  constructor
  · rintro ⟨major', _, ⟨majorRun, rfl, _⟩, _, rfl, minor', _, ⟨minorRun, rfl, _⟩, _, rfl, patch',
      _, ⟨patchRun, rfl, _⟩, more, rfl, rfl, rfl, rfl⟩
    exact ⟨majorRun, minorRun, patchRun, more, by simp⟩
  · rintro ⟨majorRun, minorRun, patchRun, more, rfl⟩
    refine ⟨major, '.' :: (minor ++ '.' :: (patch ++ '\"' :: more)), ⟨majorRun, by simp, point⟩,
      _, rfl, minor, '.' :: (patch ++ '\"' :: more), ⟨minorRun, rfl, point⟩,
      _, rfl, patch, '\"' :: more, ⟨patchRun, rfl, quote⟩, more, rfl, rfl, rfl, rfl⟩

theorem bytesAfter?_eq_some_iff {start bytes rest : List UInt8} :
    bytesAfter? start bytes = some rest ↔ bytes = start ++ rest := by
  induction start generalizing bytes with
  | nil => simp [bytesAfter?]
  | cons s start inductionHypothesis =>
      cases bytes with
      | nil => simp [bytesAfter?]
      | cons b bytes =>
          by_cases same : s = b
          · simp [bytesAfter?, same, inductionHypothesis]
          · simp [bytesAfter?, same, Ne.symm same]

theorem statedParts?_eq_some_iff {line : List UInt8} {major minor patch : List Char} :
    statedParts? line = some (major, minor, patch) ↔ States line major minor patch := by
  unfold statedParts?
  simp only [Option.bind_eq_some_iff, bytesAfter?_eq_some_iff, parts?_eq_some_iff]
  constructor
  · rintro ⟨rest, rfl, majorRun, minorRun, patchRun, begins⟩
    rcases Text.exists_decodedStart_eq_append_iff.mp begins with ⟨more, rfl⟩
    exact ⟨majorRun, minorRun, patchRun, more, List.append_assoc _ _ _⟩
  · rintro ⟨majorRun, minorRun, patchRun, more, whole⟩
    exact ⟨_, by rw [← whole, List.append_assoc], majorRun, minorRun, patchRun,
      Text.exists_decodedStart_eq_append_iff.mpr ⟨more, rfl⟩⟩

/-! ## The first of them -/

/-- The lines of a header, between newlines and without a carriage return at the end. -/
def lines (content : List UInt8) : List (List UInt8) :=
  (content.splitOn 10).map withoutReturn

theorem byteLines_eq_splitOn (content : List UInt8) : byteLines content = content.splitOn 10 := by
  induction content with
  | nil => rfl
  | cons b rest inductionHypothesis =>
      rw [byteLines, inductionHypothesis, List.splitOn_cons_eq_if_modifyHead]
      by_cases newline : b = 10
      · simp only [newline, beq_self_eq_true, if_true]
      · simp only [newline, beq_iff_eq, if_false]
        cases cut : rest.splitOn 10 with
        | nil => exact absurd cut (List.splitOn_ne_nil 10 rest)
        | cons line others => rfl

/-- A line of a header states a version with these parts, and no line before it states any. -/
def FirstStated (content : List UInt8) (major minor patch : List Char) : Prop :=
  ∃ before line after, lines content = before ++ line :: after ∧
    States line major minor patch ∧
    ∀ other ∈ before, ∀ major' minor' patch', ¬ States other major' minor' patch'

theorem statedParts?_eq_none_iff {line : List UInt8} :
    statedParts? line = none ↔ ∀ major minor patch, ¬ States line major minor patch := by
  rw [Option.eq_none_iff_forall_not_mem]
  constructor
  · intro unread major minor patch states
    exact unread (major, minor, patch) (statedParts?_eq_some_iff.mpr states)
  · rintro unstated ⟨major, minor, patch⟩ read
    exact unstated major minor patch (statedParts?_eq_some_iff.mp read)

theorem firstStated_iff {content : List UInt8} {major minor patch : List Char} :
    (lines content).findSome? statedParts? = some (major, minor, patch) ↔
      FirstStated content major minor patch := by
  simp only [List.findSome?_eq_some_iff, statedParts?_eq_some_iff, statedParts?_eq_none_iff]
  rfl

theorem FirstStated.unique {content : List UInt8} {major minor patch major' minor' patch' : List Char}
    (one : FirstStated content major minor patch) (other : FirstStated content major' minor' patch') :
    major = major' ∧ minor = minor' ∧ patch = patch' := by
  have same := (firstStated_iff.mpr one).symm.trans (firstStated_iff.mpr other)
  cases same
  exact ⟨rfl, rfl, rfl⟩

/-! ## Numbers of 32 bits -/

/-- ASCII digits write a number that 32 bits hold. -/
structure Writes (digits : List Char) (n : Nat) : Prop where
  nonempty : digits ≠ []
  ascii : ∀ c ∈ digits, c.isDigit = true
  value : Nat.ofDigitChars 10 digits 0 = n
  bound : n < UInt32.size

theorem held?_eq_some_iff {n : Nat} {v : UInt32} : held? n = some v ↔ n = v.toNat := by
  unfold held?
  split
  · rename_i small
    rw [Option.some.injEq, ← UInt32.toNat_inj, UInt32.toNat_ofNat_of_lt' small]
  · rename_i large
    constructor
    · intro impossible
      cases impossible
    · rintro rfl
      exact absurd v.toNat_lt large

theorem component_eq_ok_iff {digits : List Char} {v : UInt32} :
    component digits = .ok v ↔ Writes digits v.toNat := by
  have read : (Text.decimal? digits).bind held? = some v ↔ Writes digits v.toNat := by
    simp only [Option.bind_eq_some_iff, Text.decimal?_eq_some_iff, held?_eq_some_iff]
    constructor
    · rintro ⟨n, ⟨nonempty, ascii, value⟩, same⟩
      exact ⟨nonempty, ascii, value.trans same, v.toNat_lt⟩
    · intro writes
      exact ⟨_, ⟨writes.nonempty, writes.ascii, writes.value⟩, rfl⟩
  rw [← read]
  unfold component
  cases (Text.decimal? digits).bind held? with
  | some n => rw [Except.ok.injEq, Option.some.injEq]
  | none =>
      constructor
      · intro impossible
        cases impossible
      · intro impossible
        cases impossible

theorem component_eq_error_iff {digits : List Char} {reason : String} :
    component digits = .error reason ↔
      (∀ n, ¬ Writes digits n) ∧
        "version component `" ++ String.ofList digits ++ "` out of range" = reason := by
  have unwritten : (∀ n, ¬ Writes digits n) ↔ ∀ v, component digits ≠ .ok v := by
    constructor
    · intro none v accepted
      exact none _ (component_eq_ok_iff.mp accepted)
    · intro none n writes
      rcases Option.isSome_iff_exists.mp (show (held? n).isSome = true by
        unfold held?
        rw [if_pos writes.bound]
        rfl) with ⟨v, held⟩
      exact none v (component_eq_ok_iff.mpr (held?_eq_some_iff.mp held ▸ writes))
  rw [unwritten]
  unfold component
  cases (Text.decimal? digits).bind held? with
  | some n =>
      constructor
      · intro impossible
        cases impossible
      · rintro ⟨none, _⟩
        exact absurd rfl (none n)
  | none =>
      rw [Except.error.injEq]
      constructor
      · intro same
        exact ⟨nofun, same⟩
      · exact And.right

/-- The numbers on the way to the packed one are no larger than it, so they can be held if it
can. -/
theorem packed?_eq_some_iff {major minor patch v : UInt32} :
    packed? major minor patch = some v ↔
      major.toNat * 10000 + minor.toNat * 100 + patch.toNat = v.toNat := by
  unfold packed?
  simp only [Option.bind_eq_bind, Option.bind_eq_some_iff, held?_eq_some_iff]
  constructor
  · rintro ⟨upper, first, middle, second, both, third, fourth⟩
    rw [← fourth, ← third, ← first, ← second]
  · intro whole
    have bound : v.toNat < 2 ^ 32 := v.toNat_lt
    have upper := UInt32.toNat_ofNat_of_lt' (show major.toNat * 10000 < 2 ^ 32 by omega)
    have middle := UInt32.toNat_ofNat_of_lt' (show minor.toNat * 100 < 2 ^ 32 by omega)
    have both := UInt32.toNat_ofNat_of_lt'
      (show major.toNat * 10000 + minor.toNat * 100 < 2 ^ 32 by omega)
    refine ⟨_, upper.symm, _, middle.symm, UInt32.ofNat (major.toNat * 10000 + minor.toNat * 100),
      ?_, ?_⟩
    · rw [upper, middle, both]
    · rw [both, whole]

theorem pack_eq_ok_iff {major minor patch v : UInt32} :
    pack major minor patch = .ok v ↔
      major.toNat * 10000 + minor.toNat * 100 + patch.toNat = v.toNat := by
  rw [← packed?_eq_some_iff]
  unfold pack
  cases packed? major minor patch with
  | some version => rw [Except.ok.injEq, Option.some.injEq]
  | none =>
      constructor
      · intro impossible
        cases impossible
      · intro impossible
        cases impossible

theorem pack_eq_error_iff {major minor patch : UInt32} {reason : String} :
    pack major minor patch = .error reason ↔
      UInt32.size ≤ major.toNat * 10000 + minor.toNat * 100 + patch.toNat ∧
        "version " ++ toString major.toNat ++ "." ++ toString minor.toNat ++ "." ++
          toString patch.toNat ++ " out of range" = reason := by
  have unheld : UInt32.size ≤ major.toNat * 10000 + minor.toNat * 100 + patch.toNat ↔
      packed? major minor patch = none := by
    rw [Option.eq_none_iff_forall_ne_some]
    constructor
    · intro large v packed
      have whole := packed?_eq_some_iff.mp packed
      exact absurd v.toNat_lt (Nat.not_lt.mpr (whole ▸ large))
    · intro none
      apply Nat.le_of_not_lt
      intro small
      exact none _ (packed?_eq_some_iff.mpr (UInt32.toNat_ofNat_of_lt' small).symm)
  rw [unheld]
  unfold pack
  cases packed? major minor patch with
  | some version =>
      constructor
      · intro impossible
        cases impossible
      · rintro ⟨impossible, _⟩
        cases impossible
  | none =>
      rw [Except.error.injEq]
      exact ⟨fun same => ⟨rfl, same⟩, And.right⟩

/-! ## Packing three parts -/

/-- Three parts write the numbers of a version, and this is the packed one. -/
structure Packs (major minor patch : List Char) (x y z : Nat) (v : UInt32) : Prop where
  major : Writes major x
  minor : Writes minor y
  patch : Writes patch z
  whole : x * 10000 + y * 100 + z = v.toNat

/-- Why three parts cannot be packed: one of them is no number that fits, the first such one
being named, or they are and the packed one would be too large. -/
inductive OutOfRange (major minor patch : List Char) : String → Prop where
  | part {before after : List (List Char)} {digits : List Char}
      (parts : [major, minor, patch] = before ++ digits :: after)
      (held : ∀ other ∈ before, ∃ n, Writes other n) (unheld : ∀ n, ¬ Writes digits n) :
      OutOfRange major minor patch
        ("version component `" ++ String.ofList digits ++ "` out of range")
  | whole {x y z : Nat} (majorHeld : Writes major x) (minorHeld : Writes minor y)
      (patchHeld : Writes patch z) (large : UInt32.size ≤ x * 10000 + y * 100 + z) :
      OutOfRange major minor patch
        ("version " ++ toString x ++ "." ++ toString y ++ "." ++ toString z ++ " out of range")

theorem packedVersion_eq_ok_iff {major minor patch : List Char} {v : UInt32} :
    packedVersion (major, minor, patch) = .ok v ↔ ∃ x y z, Packs major minor patch x y z v := by
  unfold packedVersion
  simp only [bind_eq_ok_iff, component_eq_ok_iff, pack_eq_ok_iff]
  constructor
  · rintro ⟨x, majorHeld, y, minorHeld, z, patchHeld, whole⟩
    exact ⟨_, _, _, majorHeld, minorHeld, patchHeld, whole⟩
  · rintro ⟨x, y, z, majorHeld, minorHeld, patchHeld, whole⟩
    have back : ∀ {digits n}, Writes digits n → (UInt32.ofNat n).toNat = n :=
      fun writes => UInt32.toNat_ofNat_of_lt' writes.bound
    refine ⟨.ofNat x, ?_, .ofNat y, ?_, .ofNat z, ?_, ?_⟩
    · rwa [back majorHeld]
    · rwa [back minorHeld]
    · rwa [back patchHeld]
    · rw [back majorHeld, back minorHeld, back patchHeld, whole]

theorem packedVersion_eq_error_iff {major minor patch : List Char} {reason : String} :
    packedVersion (major, minor, patch) = .error reason ↔
      OutOfRange major minor patch reason := by
  have held : ∀ {digits n}, Writes digits n →
      ∃ v : UInt32, Writes digits v.toNat ∧ v.toNat = n := by
    intro digits n writes
    have same := UInt32.toNat_ofNat_of_lt' writes.bound
    exact ⟨.ofNat n, same.symm ▸ writes, same⟩
  unfold packedVersion
  simp only [bind_eq_error_iff, component_eq_ok_iff, component_eq_error_iff, pack_eq_error_iff]
  constructor
  · rintro (⟨unheld, rfl⟩ | ⟨x, first, ⟨unheld, rfl⟩ | ⟨y, second, ⟨unheld, rfl⟩ | ⟨z, third, large,
      rfl⟩⟩⟩)
    · exact .part (show _ = [] ++ major :: [minor, patch] from rfl) nofun unheld
    · refine .part (show _ = [major] ++ minor :: [patch] from rfl) (fun other listed => ?_) unheld
      exact ⟨_, List.mem_singleton.mp listed ▸ first⟩
    · refine .part (show _ = [major, minor] ++ patch :: [] from rfl) (fun other listed => ?_)
        unheld
      rcases List.mem_cons.mp listed with rfl | last
      · exact ⟨_, first⟩
      · exact ⟨_, List.mem_singleton.mp last ▸ second⟩
    · exact .whole first second third large
  · intro refused
    cases refused with
    | @part before after digits parts earlier unheld =>
        match before, parts with
        | [], parts =>
            cases parts
            exact Or.inl ⟨unheld, rfl⟩
        | [_], parts =>
            cases parts
            rcases earlier major (by simp) with ⟨_, writes⟩
            rcases held writes with ⟨x, first, _⟩
            exact Or.inr ⟨x, first, Or.inl ⟨unheld, rfl⟩⟩
        | [_, _], parts =>
            cases parts
            rcases earlier major (by simp) with ⟨_, writes⟩
            rcases held writes with ⟨x, first, _⟩
            rcases earlier minor (by simp) with ⟨_, writes⟩
            rcases held writes with ⟨y, second, _⟩
            exact Or.inr ⟨x, first, Or.inr ⟨y, second, Or.inl ⟨unheld, rfl⟩⟩⟩
        | _ :: _ :: _ :: before, parts =>
            have length := congrArg List.length parts
            simp at length
    | whole majorHeld minorHeld patchHeld large =>
        rcases held majorHeld with ⟨x, first, rfl⟩
        rcases held minorHeld with ⟨y, second, rfl⟩
        rcases held patchHeld with ⟨z, third, rfl⟩
        exact Or.inr ⟨x, first, Or.inr ⟨y, second, Or.inr ⟨z, third, large, rfl⟩⟩⟩

/-! ## The version of a header -/

/-- The first line that states a version states this one. -/
inductive Defines (content : List UInt8) (v : UInt32) : Prop where
  | packed {major minor patch : List Char} {x y z : Nat}
      (first : FirstStated content major minor patch) (packs : Packs major minor patch x y z v) :
      Defines content v

/-- Why a header has no version. -/
inductive Refuses (content : List UInt8) : String → Prop where
  | unstated
      (none : ∀ line ∈ lines content, ∀ major minor patch, ¬ States line major minor patch) :
      Refuses content "unable to find version string within sundials_config.h"
  | outOfRange {major minor patch : List Char} {reason : String}
      (first : FirstStated content major minor patch)
      (fault : OutOfRange major minor patch reason) : Refuses content reason

theorem statedVersion_eq (content : List UInt8) :
    statedVersion content =
      match (lines content).findSome? statedParts? with
      | some parts => packedVersion parts
      | none => .error "unable to find version string within sundials_config.h" := by
  have same : lines content = (byteLines content).map withoutReturn := by
    unfold lines
    rw [byteLines_eq_splitOn]
  rw [same]
  rfl

theorem statedVersion_eq_ok_iff {content : List UInt8} {v : UInt32} :
    statedVersion content = .ok v ↔ Defines content v := by
  rw [statedVersion_eq]
  cases found : (lines content).findSome? statedParts? with
  | none =>
      constructor
      · intro impossible
        cases impossible
      · rintro ⟨first, _⟩
        rw [firstStated_iff.mpr first] at found
        cases found
  | some parts =>
      rcases parts with ⟨major, minor, patch⟩
      have own := firstStated_iff.mp found
      refine packedVersion_eq_ok_iff.trans ⟨?_, ?_⟩
      · rintro ⟨x, y, z, packs⟩
        exact .packed own packs
      · rintro ⟨first, packs⟩
        rcases own.unique first with ⟨rfl, rfl, rfl⟩
        exact ⟨_, _, _, packs⟩

theorem statedVersion_eq_error_iff {content : List UInt8} {reason : String} :
    statedVersion content = .error reason ↔ Refuses content reason := by
  rw [statedVersion_eq]
  cases found : (lines content).findSome? statedParts? with
  | none =>
      have none := List.findSome?_eq_none_iff.mp found
      simp only [statedParts?_eq_none_iff] at none
      constructor
      · intro refused
        cases refused
        exact .unstated none
      · intro refused
        cases refused with
        | unstated _ => rfl
        | outOfRange first _ =>
            rw [firstStated_iff.mpr first] at found
            cases found
  | some parts =>
      rcases parts with ⟨major, minor, patch⟩
      have own := firstStated_iff.mp found
      refine packedVersion_eq_error_iff.trans ⟨.outOfRange own, ?_⟩
      intro refused
      cases refused with
      | unstated none =>
          rcases own with ⟨before, line, after, whole, states, _⟩
          exact absurd states (none line (whole ▸ by simp) major minor patch)
      | outOfRange first fault =>
          rcases own.unique first with ⟨rfl, rfl, rfl⟩
          exact fault

/-- A header that can be read has the version that its first line to state one states, if the
three numbers and the packed one can be held in 32 bits.  In every other case it is refused
under its own name. -/
theorem version_of_header {t : FileTree} {path : Path} {content : List UInt8}
    (readable : t.read path = .ok content) :
    (∀ v, versionInHeader t path = .ok v ↔ Defines content v) ∧
    (∀ e, versionInHeader t path = .error e ↔
      ∃ reason, e = .versionHeader path reason ∧ Refuses content reason) ∧
    ((∀ v, ¬ Defines content v) →
      ∃ reason, versionInHeader t path = .error (.versionHeader path reason)) := by
  simp only [versionInHeader, readable, ← statedVersion_eq_ok_iff, ← statedVersion_eq_error_iff]
  cases statedVersion content with
  | ok version => simp
  | error reason => simp [eq_comm]

/-- A header with a letter in its first line that is no text in UTF-8, and with two versions. -/
def latinHeader : List UInt8 :=
  Text.asciiBytes "/* Universit" ++ [0xE9] ++
    Text.asciiBytes " */\r\n#define SUNDIALS_PACKAGE_VERSION \"2.4.0\"\r\n" ++
    Text.asciiBytes "#define SUNDIALS_PACKAGE_VERSION \"2.5.0\"\n"

def latinTree : FileTree :=
  (FileTree.empty.putFile? ["sundials_config.h"] latinHeader false).getD FileTree.empty

/-- The letter does no harm, and the first version counts. -/
theorem version_of_latin_header :
    latinTree.read ⟨"/sundials_config.h"⟩ = .ok latinHeader ∧
      versionInHeader latinTree ⟨"/sundials_config.h"⟩ = .ok 20400 := by
  have readable : latinTree.read ⟨"/sundials_config.h"⟩ = .ok latinHeader := by decide +kernel
  have first : FirstStated latinHeader ['2'] ['4'] ['0'] :=
    firstStated_iff.mp (by decide +kernel)
  have packs : Packs ['2'] ['4'] ['0'] 2 4 0 20400 :=
    ⟨⟨nofun, by simp, rfl, by decide⟩, ⟨nofun, by simp, rfl, by decide⟩,
      ⟨nofun, by simp, rfl, by decide⟩, rfl⟩
  exact ⟨readable, ((version_of_header readable).1 20400).mpr (.packed first packs)⟩

end Sundials
end HostLink
