import HostLink.KeyOrder
import HostLink.Text.Utf8

namespace HostLink
namespace Text

/-!
# Reading characters and writing them

A character is read from the front of some bytes exactly if they begin as the character is
written.  So the characters in front of a text, up to the first byte that begins none, are
those that the text begins with in writing, whatever comes behind them.

`Written` is the table of the four lengths.  Reading and writing are both compared with it,
and neither is opened anywhere else.
-/

/-- Characters as they are written. -/
def utf8Bytes (text : List Char) : List UInt8 :=
  text.flatMap String.utf8EncodeChar

/-- The bytes of a code point.  Each length starts where the shorter ones end. -/
inductive Written : Nat → List UInt8 → Prop where
  | one {bits : Nat} : bits < 128 → Written bits [UInt8.ofNat bits]
  | two {bits low : Nat} : bits < 32 → low < 64 → 128 ≤ bits * 64 + low →
      Written (bits * 64 + low) [UInt8.ofNat (bits + 192), UInt8.ofNat (low + 128)]
  | three {bits middle low : Nat} : bits < 16 → middle < 64 → low < 64 →
      2048 ≤ (bits * 64 + middle) * 64 + low →
      Written ((bits * 64 + middle) * 64 + low)
        [UInt8.ofNat (bits + 224), UInt8.ofNat (middle + 128), UInt8.ofNat (low + 128)]
  | four {bits upper middle low : Nat} : bits < 8 → upper < 64 → middle < 64 → low < 64 →
      65536 ≤ ((bits * 64 + upper) * 64 + middle) * 64 + low →
      Written (((bits * 64 + upper) * 64 + middle) * 64 + low)
        [UInt8.ofNat (bits + 240), UInt8.ofNat (upper + 128), UInt8.ofNat (middle + 128),
          UInt8.ofNat (low + 128)]

/-! ## Writing -/

theorem toNat_lt (c : Char) : c.toNat < 0x110000 := by
  rcases c.valid with low | ⟨_, high⟩
  · exact Nat.lt_trans low (by decide)
  · exact high

/-- Characters are written as the table says. -/
theorem written_utf8EncodeChar (c : Char) : Written c.toNat (String.utf8EncodeChar c) := by
  have bound := toNat_lt c
  have code : c.val.toNat = c.toNat := rfl
  unfold String.utf8EncodeChar
  rw [code]
  generalize c.toNat = v at bound
  dsimp only
  split
  · exact .one (by omega)
  · split
    · have whole : v = v / 64 % 32 * 64 + v % 64 := by omega
      have written := @Written.two (v / 64 % 32) (v % 64) (by omega) (by omega) (by omega)
      rwa [← whole] at written
    · split
      · have whole : v = (v / 4096 % 16 * 64 + v / 64 % 64) * 64 + v % 64 := by omega
        have written := @Written.three (v / 4096 % 16) (v / 64 % 64) (v % 64) (by omega)
          (by omega) (by omega) (by omega)
        rwa [← whole] at written
      · have whole : v = ((v / 262144 % 8 * 64 + v / 4096 % 64) * 64 + v / 64 % 64) * 64 +
            v % 64 := by omega
        have written := @Written.four (v / 262144 % 8) (v / 4096 % 64) (v / 64 % 64) (v % 64)
          (by omega) (by omega) (by omega) (by omega) (by omega)
        rwa [← whole] at written

/-- A code point is written in one way. -/
theorem Written.unique {code : Nat} {bytes others : List UInt8} (one : Written code bytes)
    (other : Written code others) : bytes = others := by
  generalize same : code = code' at other
  cases one <;> cases other <;> first | omega | skip
  case one.one => rw [same]
  case two.two bits low _ _ _ bits' low' _ _ _ =>
    have first : bits = bits' := by omega
    have second : low = low' := by omega
    rw [first, second]
  case three.three bits middle low _ _ _ _ bits' middle' low' _ _ _ _ =>
    have first : bits = bits' := by omega
    have second : middle = middle' := by omega
    have third : low = low' := by omega
    rw [first, second, third]
  case four.four bits upper middle low _ _ _ _ _ bits' upper' middle' low' _ _ _ _ _ =>
    have first : bits = bits' := by omega
    have second : upper = upper' := by omega
    have third : middle = middle' := by omega
    have fourth : low = low' := by omega
    rw [first, second, third, fourth]

/-! ## Reading -/

theorem charOfCode?_eq_some_iff {code : Nat} {c : Char} :
    charOfCode? code = some c ↔ c.toNat = code := by
  unfold charOfCode?
  by_cases valid : code.isValidChar
  · have own : (Char.ofNatAux code valid).toNat = code := rfl
    rw [dif_pos valid, Option.some.injEq, ← Char.toNat_inj, own]
    exact eq_comm
  · rw [dif_neg valid]
    constructor
    · intro impossible
      cases impossible
    · intro same
      exact absurd (same ▸ c.valid) valid

theorem continuation?_eq_some_iff {b : UInt8} {low : Nat} :
    continuation? b = some low ↔ low < 64 ∧ b = UInt8.ofNat (low + 128) := by
  have small : b.toNat < 256 := b.toNat_lt
  rw [← UInt8.toNat_inj, UInt8.toNat_ofNat']
  unfold continuation?
  split
  · rename_i inside
    simp only [Bool.and_eq_true, decide_eq_true_eq] at inside
    rw [Option.some.injEq]
    omega
  · rename_i outside
    simp only [Bool.and_eq_true, decide_eq_true_eq] at outside
    constructor
    · intro impossible
      cases impossible
    · omega

theorem continued_cons_eq_some_iff {bits code : Nat} {b : UInt8} {rest : List UInt8} :
    continued bits (b :: rest) = some code ↔
      ∃ low, low < 64 ∧ b = UInt8.ofNat (low + 128) ∧
        continued (bits * 64 + low) rest = some code := by
  rw [continued]
  cases found : continuation? b with
  | none =>
      constructor
      · intro impossible
        cases impossible
      · rintro ⟨low, small, same, _⟩
        rw [continuation?_eq_some_iff.mpr ⟨small, same⟩] at found
        cases found
  | some low =>
      have own := continuation?_eq_some_iff.mp found
      constructor
      · intro later
        exact ⟨low, own.1, own.2, later⟩
      · rintro ⟨low', small, same, later⟩
        rw [continuation?_eq_some_iff.mpr ⟨small, same⟩] at found
        cases found
        exact later

/-- The four kinds of first bytes. -/
theorem leadByte?_eq_some_iff {b : UInt8} {count bits least : Nat} :
    leadByte? b = some (count, bits, least) ↔
      (count = 0 ∧ least = 0 ∧ bits < 128 ∧ b = UInt8.ofNat bits) ∨
      (count = 1 ∧ least = 128 ∧ bits < 32 ∧ b = UInt8.ofNat (bits + 192)) ∨
      (count = 2 ∧ least = 2048 ∧ bits < 16 ∧ b = UInt8.ofNat (bits + 224)) ∨
      (count = 3 ∧ least = 65536 ∧ bits < 8 ∧ b = UInt8.ofNat (bits + 240)) := by
  have small : b.toNat < 256 := b.toNat_lt
  simp only [← UInt8.toNat_inj, UInt8.toNat_ofNat']
  unfold leadByte?
  simp only [Bool.and_eq_true, decide_eq_true_eq]
  split
  · simp only [Option.some.injEq, Prod.mk.injEq]
    omega
  · split
    · simp only [Option.some.injEq, Prod.mk.injEq]
      omega
    · split
      · simp only [Option.some.injEq, Prod.mk.injEq]
        omega
      · split
        · simp only [Option.some.injEq, Prod.mk.injEq]
          omega
        · simp only [reduceCtorEq, false_iff]
          omega

theorem decodeChar?_cons_eq_some_iff {b : UInt8} {tail rest : List UInt8} {c : Char} :
    decodeChar? (b :: tail) = some (c, rest) ↔
      ∃ count bits least, leadByte? b = some (count, bits, least) ∧ count ≤ tail.length ∧
        continued bits (tail.take count) = some c.toNat ∧ least ≤ c.toNat ∧
        rest = tail.drop count := by
  rw [decodeChar?]
  cases lead : leadByte? b with
  | none => simp
  | some found =>
      rcases found with ⟨count, bits, least⟩
      simp only [Option.some.injEq, Prod.mk.injEq, and_assoc]
      constructor
      · intro read
        refine ⟨count, bits, least, rfl, rfl, rfl, ?_⟩
        split at read
        · cases read
        · rename_i long
          split at read
          · cases read
          · rename_i code joined
            split at read
            · cases read
            · rename_i enough
              rcases Option.map_eq_some_iff.mp read with ⟨d, known, same⟩
              cases same
              rw [charOfCode?_eq_some_iff.mp known]
              exact ⟨by omega, joined, by omega, rfl⟩
      · rintro ⟨count, bits, least, rfl, rfl, rfl, long, joined, enough, rest⟩
        rw [if_neg (by omega), joined]
        dsimp only
        rw [if_neg (by omega), charOfCode?_eq_some_iff.mpr rfl, rest]
        rfl

/-- What is read is written in front of the rest. -/
theorem written_of_decodeChar? {bytes rest : List UInt8} {c : Char}
    (read : decodeChar? bytes = some (c, rest)) :
    ∃ front, Written c.toNat front ∧ bytes = front ++ rest := by
  cases bytes with
  | nil => cases read
  | cons b tail =>
      rcases decodeChar?_cons_eq_some_iff.mp read with
        ⟨count, bits, least, lead, long, joined, enough, rfl⟩
      refine ⟨b :: tail.take count, ?_, by rw [List.cons_append, List.take_append_drop]⟩
      generalize c.toNat = code at joined enough
      rcases leadByte?_eq_some_iff.mp lead with
        ⟨rfl, rfl, small, rfl⟩ | ⟨rfl, rfl, small, rfl⟩ | ⟨rfl, rfl, small, rfl⟩ |
          ⟨rfl, rfl, small, rfl⟩
      · cases joined
        exact .one small
      · rcases tail with _ | ⟨b₁, tail⟩
        · cases long
        · rcases continued_cons_eq_some_iff.mp joined with ⟨low, fits, rfl, whole⟩
          cases whole
          exact .two small fits enough
      · rcases tail with _ | ⟨b₁, _ | ⟨b₂, tail⟩⟩
        · cases long
        · exact absurd long (by simp)
        · rcases continued_cons_eq_some_iff.mp joined with ⟨middle, fits₁, rfl, last⟩
          rcases continued_cons_eq_some_iff.mp last with ⟨low, fits₂, rfl, whole⟩
          cases whole
          exact .three small fits₁ fits₂ enough
      · rcases tail with _ | ⟨b₁, _ | ⟨b₂, _ | ⟨b₃, tail⟩⟩⟩
        · cases long
        · exact absurd long (by simp)
        · exact absurd long (by simp)
        · rcases continued_cons_eq_some_iff.mp joined with ⟨upper, fits₁, rfl, lastTwo⟩
          rcases continued_cons_eq_some_iff.mp lastTwo with ⟨middle, fits₂, rfl, last⟩
          rcases continued_cons_eq_some_iff.mp last with ⟨low, fits₃, rfl, whole⟩
          cases whole
          exact .four small fits₁ fits₂ fits₃ enough

/-- What is written is read again, whatever follows it. -/
theorem Written.decodeChar? {c : Char} {front : List UInt8} (written : Written c.toNat front)
    (rest : List UInt8) : decodeChar? (front ++ rest) = some (c, rest) := by
  generalize code : c.toNat = v at written
  cases written with
  | one small =>
      exact decodeChar?_cons_eq_some_iff.mpr
        ⟨0, _, 0, leadByte?_eq_some_iff.mpr (Or.inl ⟨rfl, rfl, small, rfl⟩), Nat.zero_le _,
          congrArg some code.symm, Nat.zero_le _, rfl⟩
  | two small fits enough =>
      refine decodeChar?_cons_eq_some_iff.mpr
        ⟨1, _, 128, leadByte?_eq_some_iff.mpr (Or.inr (Or.inl ⟨rfl, rfl, small, rfl⟩)),
          Nat.le_add_left _ _, ?_, code ▸ enough, rfl⟩
      exact continued_cons_eq_some_iff.mpr ⟨_, fits, rfl, congrArg some code.symm⟩
  | three small fits₁ fits₂ enough =>
      refine decodeChar?_cons_eq_some_iff.mpr
        ⟨2, _, 2048,
          leadByte?_eq_some_iff.mpr (Or.inr (Or.inr (Or.inl ⟨rfl, rfl, small, rfl⟩))),
          Nat.le_add_left _ _, ?_, code ▸ enough, rfl⟩
      refine continued_cons_eq_some_iff.mpr ⟨_, fits₁, rfl, ?_⟩
      exact continued_cons_eq_some_iff.mpr ⟨_, fits₂, rfl, congrArg some code.symm⟩
  | four small fits₁ fits₂ fits₃ enough =>
      refine decodeChar?_cons_eq_some_iff.mpr
        ⟨3, _, 65536,
          leadByte?_eq_some_iff.mpr (Or.inr (Or.inr (Or.inr ⟨rfl, rfl, small, rfl⟩))),
          Nat.le_add_left _ _, ?_, code ▸ enough, rfl⟩
      refine continued_cons_eq_some_iff.mpr ⟨_, fits₁, rfl, ?_⟩
      refine continued_cons_eq_some_iff.mpr ⟨_, fits₂, rfl, ?_⟩
      exact continued_cons_eq_some_iff.mpr ⟨_, fits₃, rfl, congrArg some code.symm⟩

/-- A character is read exactly where it is written. -/
theorem decodeChar?_eq_some_iff {bytes rest : List UInt8} {c : Char} :
    decodeChar? bytes = some (c, rest) ↔ bytes = String.utf8EncodeChar c ++ rest := by
  constructor
  · intro read
    rcases written_of_decodeChar? read with ⟨front, written, whole⟩
    rw [whole, written.unique (written_utf8EncodeChar c)]
  · rintro rfl
    exact (written_utf8EncodeChar c).decodeChar? rest

theorem decodedStart_cons {bytes rest : List UInt8} {c : Char}
    (read : decodeChar? bytes = some (c, rest)) :
    decodedStart bytes = c :: decodedStart rest := by
  rw [decodedStart]
  split
  · rename_i none
    rw [none] at read
    cases read
  · rename_i d tail found
    rw [found] at read
    cases read
    rfl

theorem decodedStart_eq_nil {bytes : List UInt8} (none : decodeChar? bytes = none) :
    decodedStart bytes = [] := by
  rw [decodedStart]
  split
  · rfl
  · rename_i d tail found
    rw [found] at none
    cases none

/-- The characters in front of some bytes begin with a text exactly if the bytes begin as the
text is written. -/
theorem exists_decodedStart_eq_append_iff {text : List Char} {bytes : List UInt8} :
    (∃ more, decodedStart bytes = text ++ more) ↔ ∃ rest, bytes = utf8Bytes text ++ rest := by
  induction text generalizing bytes with
  | nil => exact iff_of_true ⟨_, rfl⟩ ⟨_, rfl⟩
  | cons c text inductionHypothesis =>
      have write : utf8Bytes (c :: text) = String.utf8EncodeChar c ++ utf8Bytes text :=
        List.flatMap_cons
      constructor
      · rintro ⟨more, begins⟩
        cases read : decodeChar? bytes with
        | none =>
            rw [decodedStart_eq_nil read] at begins
            cases begins
        | some found =>
            rcases found with ⟨d, tail⟩
            rw [decodedStart_cons read] at begins
            rcases List.cons.inj begins with ⟨rfl, later⟩
            rcases inductionHypothesis.mp ⟨more, later⟩ with ⟨rest, rfl⟩
            exact ⟨rest, by
              rw [write, List.append_assoc, decodeChar?_eq_some_iff.mp read]⟩
      · rintro ⟨rest, whole⟩
        rw [write, List.append_assoc] at whole
        rcases inductionHypothesis.mpr ⟨rest, rfl⟩ with ⟨more, later⟩
        exact ⟨more, by
          rw [decodedStart_cons (decodeChar?_eq_some_iff.mpr whole), later, List.cons_append]⟩

/-! ## Order -/

/-- A smaller code point is written with smaller bytes, whatever follows. -/
theorem Written.lt {code code' : Nat} {bytes others : List UInt8} (one : Written code bytes)
    (other : Written code' others) (less : code < code') (rest rest' : List UInt8) :
    bytes ++ rest < others ++ rest' := by
  cases one <;> cases other <;>
    simp only [List.cons_append, List.nil_append, List.cons_lt_cons_iff, UInt8.lt_iff_toNat_lt,
      ← UInt8.toNat_inj, UInt8.toNat_ofNat'] <;>
    omega

theorem append_lt_append_iff {front rest rest' : List UInt8} :
    front ++ rest < front ++ rest' ↔ rest < rest' := by
  induction front with
  | nil => rfl
  | cons b front inductionHypothesis => simp [inductionHypothesis]

/-- The order of texts is that of their bytes. -/
theorem beforeList_iff {text other : List Char} :
    KeyOrder.beforeList text other = true ↔ utf8Bytes text < utf8Bytes other := by
  induction text generalizing other with
  | nil =>
      cases other with
      | nil => simp [KeyOrder.beforeList, utf8Bytes]
      | cons d other =>
          refine iff_of_true rfl ?_
          rcases List.exists_cons_of_ne_nil (String.utf8EncodeChar_ne_nil (c := d)) with
            ⟨b, rest, bytes⟩
          simp [utf8Bytes, bytes]
  | cons c text inductionHypothesis =>
      cases other with
      | nil => simp [KeyOrder.beforeList, utf8Bytes]
      | cons d other =>
          have own : utf8Bytes (c :: text) = String.utf8EncodeChar c ++ utf8Bytes text := rfl
          have own' : utf8Bytes (d :: other) = String.utf8EncodeChar d ++ utf8Bytes other := rfl
          have written := written_utf8EncodeChar c
          have written' := written_utf8EncodeChar d
          rw [own, own', KeyOrder.beforeList, Bool.or_eq_true, Bool.and_eq_true, KeyOrder.same_iff,
            inductionHypothesis]
          change decide (c.toNat < d.toNat) = true ∨ _ ↔ _
          rw [decide_eq_true_iff]
          rcases Nat.lt_trichotomy c.toNat d.toNat with less | same | more
          · exact iff_of_true (Or.inl less) (written.lt written' less _ _)
          · cases Char.toNat_inj.mp same
            rw [append_lt_append_iff]
            simp
          · apply iff_of_false
            · rintro (less | ⟨same, _⟩)
              · omega
              · rw [same] at more
                omega
            · exact List.lt_asymm (written'.lt written more _ _)

end Text
end HostLink
