import HostLink.Text.Digit
import Mathlib.Data.List.TakeDrop

namespace HostLink
namespace Text

/-!
# Numbers in decimal

A number starts as a run of digits, which ends where the first other character stands.  What
is read from ASCII digits is the number that they write.
-/

/-- A run in front of a text goes up to the first character that does not belong to it. -/
theorem span_eq_iff {belongs : Char → Bool} {text found rest : List Char} :
    text.span belongs = (found, rest) ↔
      (∀ c ∈ found, belongs c = true) ∧ text = found ++ rest ∧
        rest.head?.any belongs = false := by
  rw [List.span_eq_takeWhile_dropWhile, Prod.mk.injEq]
  constructor
  · rintro ⟨rfl, rfl⟩
    refine ⟨List.all_eq_true.mp List.all_takeWhile,
      List.takeWhile_append_dropWhile.symm, ?_⟩
    have ending := List.head?_dropWhile_not belongs text
    cases first : (text.dropWhile belongs).head? with
    | none => rfl
    | some c =>
        rw [first] at ending
        exact ending
  · rintro ⟨inside, rfl, ending⟩
    rw [List.takeWhile_append_of_pos inside, List.dropWhile_append_of_pos inside]
    cases rest with
    | nil => exact ⟨List.append_nil _, rfl⟩
    | cons c rest =>
        have other : ¬ belongs c = true := Bool.eq_false_iff.mp ending
        rw [List.takeWhile_cons_of_neg other, List.dropWhile_cons_of_neg other]
        exact ⟨List.append_nil _, rfl⟩

/-- The number that ASCII digits write. -/
theorem decimal?_eq_some_iff {digits : List Char} {n : Nat} :
    decimal? digits = some n ↔
      digits ≠ [] ∧ (∀ c ∈ digits, c.isDigit = true) ∧ Nat.ofDigitChars 10 digits 0 = n := by
  have value : digits.foldl (fun n c => n * 10 + digitValue c) 0 =
      Nat.ofDigitChars 10 digits 0 := by
    rw [Nat.ofDigitChars_eq_foldl]
    exact congrArg (fun step => List.foldl step 0 digits)
      (funext fun n => funext fun c => by rw [Nat.mul_comm]; rfl)
  unfold decimal?
  rw [value]
  split
  · rename_i refused
    simp only [Bool.or_eq_true, List.isEmpty_iff, Bool.not_eq_true', List.all_eq_false] at refused
    constructor
    · intro impossible
      cases impossible
    · rintro ⟨some, ascii, _⟩
      rcases refused with none | ⟨c, listed, other⟩
      · exact absurd none some
      · exact absurd (ascii c listed) other
  · rename_i accepted
    simp only [Bool.or_eq_true, List.isEmpty_iff, Bool.not_eq_true', not_or,
      Bool.not_eq_false, List.all_eq_true] at accepted
    rw [Option.some.injEq]
    exact ⟨fun same => ⟨accepted.1, accepted.2, same⟩, fun all => all.2.2⟩

theorem isDigit_of_mem_toDigits {n : Nat} {c : Char} (listed : c ∈ Nat.toDigits 10 n) :
    c.isDigit = true :=
  Nat.isDigit_of_mem_toDigits (by decide) (by decide) listed

theorem isDigit_of_mem_digitChar {n : Nat} {c : Char} (small : n < 10)
    (listed : c ∈ [n.digitChar]) : c.isDigit = true := by
  rw [← Nat.toDigits_of_lt_base small] at listed
  exact isDigit_of_mem_toDigits listed

theorem toLower_of_isDigit {c : Char} (digit : c.isDigit = true) : c.toLower = c := by
  simp only [Char.isDigit, Bool.and_eq_true, decide_eq_true_eq] at digit
  have high := UInt32.le_iff_toNat_le.mp digit.2
  unfold Char.toLower
  rw [dif_neg]
  rintro ⟨low, _⟩
  have low := UInt32.le_iff_toNat_le.mp low
  change 65 ≤ c.val.toNat at low
  change c.val.toNat ≤ 57 at high
  omega

/-! ## The leading digit -/

/-- A number that is not zero starts with another digit. -/
theorem exists_toDigits_eq_cons {n : Nat} (positive : 0 < n) :
    ∃ d rest, 0 < d ∧ d < 10 ∧ Nat.toDigits 10 n = d.digitChar :: rest := by
  induction n using Nat.strongRecOn with
  | ind n inductionHypothesis =>
      by_cases single : n < 10
      · exact ⟨n, [], positive, single, Nat.toDigits_of_lt_base single⟩
      · rcases inductionHypothesis (n / 10) (by omega) (by omega) with
          ⟨d, rest, nonzero, small, front⟩
        refine ⟨d, rest ++ [(n % 10).digitChar], nonzero, small, ?_⟩
        rw [Nat.toDigits_of_base_le (by decide) (by omega), front]
        rfl

/-- Digits are worth less than one more in front of them. -/
theorem ofDigitChars_lt {digits : List Char} (ascii : ∀ c ∈ digits, c.isDigit = true) :
    Nat.ofDigitChars 10 digits 0 < Nat.pow 10 digits.length := by
  suffices power : Nat.ofDigitChars 10 digits 0 < 10 ^ digits.length from power
  induction digits with
  | nil => decide
  | cons c digits inductionHypothesis =>
      have later := inductionHypothesis (fun d listed => ascii d (List.mem_cons_of_mem _ listed))
      have own := ascii c List.mem_cons_self
      have bound : c.toNat - '0'.toNat ≤ 9 := by
        simp only [Char.isDigit, Bool.and_eq_true, decide_eq_true_eq] at own
        have high := UInt32.le_iff_toNat_le.mp own.2
        change c.toNat ≤ 57 at high
        change c.toNat - 48 ≤ 9
        omega
      rw [Nat.ofDigitChars_cons, Nat.ofDigitChars_eq_ofDigitChars_zero, List.length_cons,
        Nat.pow_succ]
      have front := Nat.mul_le_mul_left (10 ^ digits.length) bound
      simp only [Nat.mul_zero, Nat.zero_add]
      omega

end Text
end HostLink
