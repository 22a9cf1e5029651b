namespace HostLink
namespace Text

/-!
Decimal digits.  Unicode has many sets of ten digits, each with its digits next to one
another in the order of their values; a character is a decimal digit if it has the general
category `Nd`.  Only the ASCII digits are read as numbers here.
-/

/-- The code points of the digits zero, except those of the mathematical alphabets. -/
def zeros : List Nat :=
  [0x30, 0x660, 0x6F0, 0x7C0, 0x966, 0x9E6, 0xA66, 0xAE6, 0xB66, 0xBE6, 0xC66, 0xCE6, 0xD66,
    0xDE6, 0xE50, 0xED0, 0xF20, 0x1040, 0x1090, 0x17E0, 0x1810, 0x1946, 0x19D0, 0x1A80,
    0x1A90, 0x1B50, 0x1BB0, 0x1C40, 0x1C50, 0xA620, 0xA8D0, 0xA900, 0xA9D0, 0xA9F0, 0xAA50,
    0xABF0, 0xFF10, 0x104A0, 0x10D30, 0x10D40, 0x11066, 0x110F0, 0x11136, 0x111D0, 0x112F0,
    0x11450, 0x114D0, 0x11650, 0x116C0, 0x116D0, 0x116DA, 0x11730, 0x118E0, 0x11950,
    0x11BF0, 0x11C50, 0x11D50, 0x11DA0, 0x11F50, 0x16A60, 0x16AC0, 0x16B50, 0x16D70,
    0x1CCF0, 0x1E140, 0x1E2F0, 0x1E4F0, 0x1E5F1, 0x1E950, 0x1FBF0]

/-- The digits of the five mathematical alphabets, which follow one another. -/
def mathematicalDigits : Nat × Nat :=
  (0x1D7CE, 50)

/-- The general category `Nd`. -/
def isDecimalDigit (c : Char) : Bool :=
  zeros.any (fun first => first ≤ c.toNat && c.toNat < first + 10) ||
    (mathematicalDigits.1 ≤ c.toNat && c.toNat < mathematicalDigits.1 + mathematicalDigits.2)

theorem isDecimalDigit_of_isDigit {c : Char} (h : c.isDigit = true) :
    isDecimalDigit c = true := by
  have hbounds : 0x30 ≤ c.toNat ∧ c.toNat < 0x30 + 10 := by
    simp only [Char.isDigit, Bool.and_eq_true, decide_eq_true_eq, ge_iff_le] at h
    have hlow := UInt32.le_iff_toNat_le.mp h.1
    have hhigh := UInt32.le_iff_toNat_le.mp h.2
    have hval : c.val.toNat = c.toNat := rfl
    rw [hval] at hlow hhigh
    change 48 ≤ c.toNat at hlow
    change c.toNat ≤ 57 at hhigh
    omega
  simp [isDecimalDigit, zeros, hbounds.1, hbounds.2]

/-- The value of an ASCII digit. -/
def digitValue (c : Char) : Nat :=
  c.toNat - '0'.toNat

/-- The number that ASCII digits stand for; other characters, or none at all, are no number. -/
def decimal? (digits : List Char) : Option Nat :=
  if digits.isEmpty || !digits.all Char.isDigit then none
  else some (digits.foldl (fun n c => n * 10 + digitValue c) 0)

end Text
end HostLink
