import HostLink.Proofs.Text.Digit
import HostLink.Toml.Number

namespace HostLink
namespace Toml

/-!
# Natural numbers that were written are read back

A number is read as a date, a time, a number with a point or an exponent, or an integer, in
this order.  A natural number is written as its digits.  They are an integer and nothing else,
provided that what follows them goes on with none of these forms.
-/

/-- The characters that can go on with a number, a date or a time behind a digit. -/
def continuing : List Char :=
  ['_', '.', 'e', 'E', '-', ':', 'x', 'o', 'b']

/-- A character of a kind is none of those that are not of that kind. -/
theorem ne_of_all_not {kind : Char → Bool} {others : List Char}
    (none : others.all (fun d => !kind d) = true) {c : Char} (own : kind c = true) :
    ∀ d ∈ others, c ≠ d := by
  rintro d listed rfl
  have other := List.all_eq_true.mp none c listed
  rw [own] at other
  cases other

theorem continuing_all_not_isDigit : continuing.all (fun c => !c.isDigit) = true := by
  decide

/-- A number ends here. -/
structure NumberEnds (rest : List Char) : Prop where
  digit : rest.head?.any Char.isDigit = false
  other : ∀ c ∈ continuing, rest.head? ≠ some c

theorem sign?_of_head?_ne {c : Char} {text : List Char} (other : text.head? ≠ some c) :
    sign? c text = none := by
  cases text with
  | nil => rfl
  | cons d text => exact if_neg (fun same => other (congrArg some same))

section

variable {digits rest : List Char}

/-- Behind some of the digits there is no sign of a longer form. -/
theorem head?_append_ne (ascii : ∀ c ∈ digits, c.isDigit = true) (ends : NumberEnds rest)
    {c : Char} (listed : c ∈ continuing) : (digits ++ rest).head? ≠ some c := by
  cases digits with
  | nil => exact ends.other c listed
  | cons d digits =>
      intro same
      have own := ascii d List.mem_cons_self
      exact ne_of_all_not continuing_all_not_isDigit own c listed (Option.some.inj same)

/-! ## Neither a date nor a time -/

/-- A fixed number of digits takes some of the digits and nothing else. -/
theorem exists_of_fixedDigits? (ascii : ∀ c ∈ digits, c.isDigit = true) (ends : NumberEnds rest)
    {count value : Nat} {behind : List Char}
    (found : fixedDigits? count (digits ++ rest) = some (value, behind)) :
    ∃ later, behind = later ++ rest ∧ ∀ c ∈ later, c.isDigit = true := by
  unfold fixedDigits? at found
  simp only at found
  split at found
  · rename_i full
    rcases full with ⟨length, all⟩
    have left : behind = (digits ++ rest).drop count :=
      (congrArg Prod.snd (Option.some.inj found)).symm
    have within : count ≤ digits.length := by
      by_contra longer
      cases rest with
      | nil => simp at length; omega
      | cons c rest =>
          have taken : c ∈ (digits ++ c :: rest).take count := by
            rw [List.take_append, List.mem_append]
            refine Or.inr ?_
            obtain ⟨room, more⟩ := Nat.exists_eq_succ_of_ne_zero
              (show count - digits.length ≠ 0 by omega)
            rw [more, List.take_succ_cons]
            exact List.mem_cons_self
          have own := List.all_eq_true.mp all c taken
          have none := ends.digit
          rw [List.head?_cons, Option.any_some, own] at none
          cases none
    refine ⟨digits.drop count, ?_, fun c listed => ascii c (List.mem_of_mem_drop listed)⟩
    rw [left, List.drop_append_of_le_length within]
  · cases found

theorem readDate?_digits (ascii : ∀ c ∈ digits, c.isDigit = true) (ends : NumberEnds rest) :
    readDate? (digits ++ rest) = none := by
  unfold readDate?
  cases found : fixedDigits? 4 (digits ++ rest) with
  | none => rfl
  | some year =>
      rcases year with ⟨year, behind⟩
      rcases exists_of_fixedDigits? ascii ends found with ⟨later, rfl, all⟩
      have none := sign?_of_head?_ne (head?_append_ne all ends (c := '-') (by decide))
      simp [none]

theorem readTime?_digits (ascii : ∀ c ∈ digits, c.isDigit = true) (ends : NumberEnds rest) :
    readTime? (digits ++ rest) = none := by
  unfold readTime?
  cases found : fixedDigits? 2 (digits ++ rest) with
  | none => rfl
  | some hour =>
      rcases hour with ⟨hour, behind⟩
      rcases exists_of_fixedDigits? ascii ends found with ⟨later, rfl, all⟩
      have none := sign?_of_head?_ne (head?_append_ne all ends (c := ':') (by decide))
      simp [none]

/-! ## The digits of a number -/

theorem digitsAfter_append (ascii : ∀ c ∈ digits, c.isDigit = true) (ends : NumberEnds rest) :
    digitsAfter Char.isDigit (digits ++ rest) = (digits, rest) := by
  induction digits with
  | nil =>
      cases rest with
      | nil => rfl
      | cons c rest =>
          have digit : c.isDigit = false := ends.digit
          have underscore : c ≠ '_' := fun same => ends.other '_' (by decide) (congrArg some same)
          simp [digitsAfter, underscore, digit]
  | cons c digits inductionHypothesis =>
      rcases List.forall_mem_cons.mp ascii with ⟨own, others⟩
      have underscore : c ≠ '_' := by
        rintro rfl
        cases own
      simp [digitsAfter, underscore, own, inductionHypothesis others]

end

variable {rest : List Char}

theorem ascii_toDigits (n : Nat) : ∀ c ∈ Nat.toDigits 10 n, c.isDigit = true :=
  fun _ listed => Text.isDigit_of_mem_toDigits listed

theorem digitChar_ne_zero : ∀ d < 10, 0 < d → d.digitChar ≠ '0' := by
  decide

/-- The digits of a number are zero alone, or start with another digit. -/
theorem wholeDigits?_toDigits (n : Nat) (ends : NumberEnds rest) :
    wholeDigits? (Nat.toDigits 10 n ++ rest) = some (Nat.toDigits 10 n, rest) := by
  rcases Nat.eq_zero_or_pos n with rfl | positive
  · rfl
  · rcases Text.exists_toDigits_eq_cons positive with ⟨d, digits, nonzero, small, form⟩
    have ascii := ascii_toDigits n
    rw [form] at ascii ⊢
    rcases List.forall_mem_cons.mp ascii with ⟨own, others⟩
    have zero := digitChar_ne_zero d small nonzero
    rw [List.cons_append]
    simp [wholeDigits?, zero, digits?, own, digitsAfter_append others ends]

theorem decimalValue_toDigits (n : Nat) : decimalValue (Nat.toDigits 10 n) = n := by
  have same : decimalValue (Nat.toDigits 10 n) = Nat.ofDigitChars 10 (Nat.toDigits 10 n) 0 := by
    rw [Nat.ofDigitChars_eq_foldl]
    exact congrArg (fun step => List.foldl step 0 (Nat.toDigits 10 n))
      (funext fun n => funext fun c => by rw [Nat.mul_comm]; rfl)
  rw [same, Nat.ofDigitChars_ten_toDigits]

/-! ## An integer -/

/-- A sign, a letter or a mark does not start a number. -/
theorem exists_toDigits_append_eq_cons (n : Nat) (rest : List Char) :
    ∃ c text, Nat.toDigits 10 n ++ rest = c :: text ∧ c.isDigit = true := by
  have ascii := ascii_toDigits n
  cases form : Nat.toDigits 10 n with
  | nil => exact absurd form Nat.toDigits_ne_nil
  | cons c digits => exact ⟨c, digits ++ rest, rfl, ascii c (form ▸ List.mem_cons_self)⟩

theorem optionalSign_toDigits (n : Nat) (rest : List Char) :
    optionalSign (Nat.toDigits 10 n ++ rest) = (false, Nat.toDigits 10 n ++ rest) := by
  rcases exists_toDigits_append_eq_cons n rest with ⟨c, text, form, digit⟩
  rw [form]
  unfold optionalSign
  split
  · rename_i same
    rw [(List.cons.inj same).1] at digit
    cases digit
  · rename_i same
    rw [(List.cons.inj same).1] at digit
    cases digit
  · rfl

theorem realParts?_toDigits (n : Nat) (ends : NumberEnds rest) :
    realParts? (Nat.toDigits 10 n ++ rest) = none := by
  have fraction : fraction? rest = none := by
    unfold fraction?
    split
    · exact absurd rfl (ends.other '.' (by decide))
    · rfl
  have exponent : exponent? rest = none := by
    unfold exponent?
    split
    · rename_i mark later
      have other : ¬ (mark = 'e' ∨ mark = 'E') := by
        rintro (rfl | rfl)
        · exact ends.other 'e' (by decide) rfl
        · exact ends.other 'E' (by decide) rfl
      exact if_neg other
    · rfl
  simp [realParts?, wholeDigits?_toDigits n ends, fraction, exponent]

theorem readReal?_toDigits (n : Nat) (ends : NumberEnds rest) :
    readReal? (Nat.toDigits 10 n ++ rest) = none := by
  rcases exists_toDigits_append_eq_cons n rest with ⟨c, text, form, digit⟩
  unfold readReal?
  rw [optionalSign_toDigits]
  simp only
  split
  · rename_i same
    rw [form] at same
    rw [(List.cons.inj same).1] at digit
    cases digit
  · rename_i same
    rw [form] at same
    rw [(List.cons.inj same).1] at digit
    cases digit
  · rw [realParts?_toDigits n ends]

/-- Only zero starts with a zero, and nothing else follows it. -/
theorem eq_of_toDigits_eq_zero_cons {n : Nat} {text : List Char}
    (form : Nat.toDigits 10 n ++ rest = '0' :: text) : rest = text := by
  rcases Nat.eq_zero_or_pos n with rfl | positive
  · exact (List.cons.inj form).2
  · rcases Text.exists_toDigits_eq_cons positive with ⟨d, digits, nonzero, small, shown⟩
    rw [shown] at form
    exact absurd (List.cons.inj form).1 (digitChar_ne_zero d small nonzero)

theorem readInteger?_toDigits {n : Nat} (held : n ≤ 9223372036854775807) (ends : NumberEnds rest) :
    readInteger? (Nat.toDigits 10 n ++ rest) = some (.integer n, rest) := by
  have range : integerInRange (n : Int) = some (.integer n) := if_pos (by omega)
  have base : ∀ c ∈ continuing, ∀ text, Nat.toDigits 10 n ++ rest ≠ '0' :: c :: text := by
    intro c listed text same
    refine ends.other c listed ?_
    rw [eq_of_toDigits_eq_zero_cons same, List.head?_cons]
  unfold readInteger?
  split
  · rename_i same
    exact absurd same (base 'x' (by decide) _)
  · rename_i same
    exact absurd same (base 'o' (by decide) _)
  · rename_i same
    exact absurd same (base 'b' (by decide) _)
  · simp [optionalSign_toDigits, wholeDigits?_toDigits n ends, decimalValue_toDigits, range]

/-- A natural number is read from its digits. -/
theorem readNumber?_toDigits {n : Nat} (held : n ≤ 9223372036854775807) (ends : NumberEnds rest) :
    readNumber? (Nat.toDigits 10 n ++ rest) = some (.integer n, rest) := by
  have ascii := ascii_toDigits n
  unfold readNumber? readDateTime?
  rw [readDate?_digits ascii ends, readTime?_digits ascii ends, readReal?_toDigits n ends,
    readInteger?_toDigits held ends]
  rfl

end Toml
end HostLink
