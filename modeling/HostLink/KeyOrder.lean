namespace HostLink

/-!
The order of keys in a table.  Characters come in the order of their code points and
strings in dictionary order over their characters, which is also the order of their
UTF-8 bytes.  Lists of keys come in dictionary order as well, so a directory comes before
everything below it.
-/

/-- A strict linear order on keys. -/
class KeyOrder (κ : Type) where
  before : κ → κ → Bool
  irrefl : ∀ a, before a a = false
  trans : ∀ a b c, before a b = true → before b c = true → before a c = true
  connected : ∀ a b, before a b = false → before b a = false → a = b

namespace KeyOrder

theorem asymm {κ : Type} [KeyOrder κ] {a b : κ} (h : before a b = true) :
    before b a = false := by
  cases hba : before b a with
  | false => rfl
  | true =>
      have haa := trans a b a h hba
      rw [irrefl] at haa
      cases haa

theorem ne_of_before {κ : Type} [KeyOrder κ] {a b : κ} (h : before a b = true) :
    a ≠ b := by
  intro hab
  subst hab
  rw [irrefl] at h
  cases h

/-- Equality of keys, decided by the order alone. -/
def same {κ : Type} [KeyOrder κ] (a b : κ) : Bool :=
  !before a b && !before b a

@[simp]
theorem same_iff {κ : Type} [KeyOrder κ] {a b : κ} : same a b = true ↔ a = b := by
  constructor
  · intro h
    simp only [same, Bool.and_eq_true, Bool.not_eq_true'] at h
    exact connected a b h.1 h.2
  · intro h
    subst h
    simp [same, irrefl]

/-- Dictionary order: the first difference decides, and a list comes before its extensions. -/
def beforeList {κ : Type} [KeyOrder κ] : List κ → List κ → Bool
  | [], [] => false
  | [], _ :: _ => true
  | _ :: _, [] => false
  | a :: as, b :: bs => before a b || (same a b && beforeList as bs)

theorem beforeList_irrefl {κ : Type} [KeyOrder κ] (as : List κ) : beforeList as as = false := by
  induction as with
  | nil => rfl
  | cons a as ih => simp [beforeList, irrefl, ih]

theorem beforeList_trans {κ : Type} [KeyOrder κ] (as bs cs : List κ)
    (hab : beforeList as bs = true) (hbc : beforeList bs cs = true) :
    beforeList as cs = true := by
  induction as generalizing bs cs with
  | nil =>
      cases cs with
      | nil => cases bs <;> simp [beforeList] at hab hbc
      | cons c cs => rfl
  | cons a as ih =>
      cases bs with
      | nil => simp [beforeList] at hab
      | cons b bs =>
          cases cs with
          | nil => simp [beforeList] at hbc
          | cons c cs =>
              simp only [beforeList, Bool.or_eq_true, Bool.and_eq_true, same_iff] at hab hbc ⊢
              rcases hab with hab | ⟨rfl, hab⟩
              · rcases hbc with hbc | ⟨rfl, _⟩
                · exact Or.inl (trans a b c hab hbc)
                · exact Or.inl hab
              · rcases hbc with hbc | ⟨rfl, hbc⟩
                · exact Or.inl hbc
                · exact Or.inr ⟨rfl, ih bs cs hab hbc⟩

theorem beforeList_connected {κ : Type} [KeyOrder κ] (as bs : List κ)
    (hab : beforeList as bs = false) (hba : beforeList bs as = false) : as = bs := by
  induction as generalizing bs with
  | nil =>
      cases bs with
      | nil => rfl
      | cons b bs => simp [beforeList] at hab
  | cons a as ih =>
      cases bs with
      | nil => simp [beforeList] at hba
      | cons b bs =>
          simp only [beforeList, Bool.or_eq_false_iff] at hab hba
          have heq : a = b := connected a b hab.1 hba.1
          subst heq
          have hsame : same a a = true := same_iff.mpr rfl
          simp only [hsame, Bool.true_and] at hab hba
          rw [ih bs hab.2 hba.2]

/-- What two lists have in common in front does not count. -/
theorem beforeList_append {κ : Type} [KeyOrder κ] (front as bs : List κ) :
    beforeList (front ++ as) (front ++ bs) = beforeList as bs := by
  induction front with
  | nil => rfl
  | cons a front ih =>
      have hsame : same a a = true := same_iff.mpr rfl
      simp [beforeList, irrefl, hsame, ih]

theorem beforeList_singleton {κ : Type} [KeyOrder κ] (a b : κ) :
    beforeList [a] [b] = before a b := by
  simp [beforeList]

instance {κ : Type} [KeyOrder κ] : KeyOrder (List κ) where
  before := beforeList
  irrefl := beforeList_irrefl
  trans := beforeList_trans
  connected := beforeList_connected

/-- Characters in the order of their code points. -/
instance : KeyOrder Char where
  before a b := decide (a.toNat < b.toNat)
  irrefl a := by simp
  trans a b c hab hbc := by
    simp only [decide_eq_true_eq] at hab hbc ⊢
    exact Nat.lt_trans hab hbc
  connected a b hab hba := by
    simp only [decide_eq_false_iff_not, Nat.not_lt] at hab hba
    exact Char.toNat_inj.mp (Nat.le_antisymm hba hab)

/-- Strings in dictionary order over their characters. -/
instance : KeyOrder String where
  before a b := before a.toList b.toList
  irrefl a := irrefl a.toList
  trans a b c := trans a.toList b.toList c.toList
  connected a b hab hba := String.toList_inj.mp (connected a.toList b.toList hab hba)

end KeyOrder

end HostLink
