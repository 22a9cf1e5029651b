import HostLink.Proofs.Relocation.BoostLibrary
import HostLink.Proofs.Text.Digit

namespace HostLink

/-!
# Where a version of Boost keeps its headers

From version 1.40 on the headers of Boost lie directly below the directory of headers.  The
version counts as the number that its first four characters write, which orders most versions
as their two leading parts do: before the point stands the first part, and behind it, if the
first part has one digit, stand the first two digits of the second part as hundredths.

With the first part 1 this goes wrong where the second part has not two digits.  A single digit
counts as tenths, so 1.4 to 1.9 pass for 1.40 to 1.90, and of a longer part only two digits
count, so 1.100 passes for 1.10.  If a third part follows two single digits, the fourth character
is the point before it, and nothing is read at all.
-/

namespace Boost

/-! ## Versions -/

/-- A version with two numbers and perhaps more digits behind them. -/
structure Version where
  major : Nat
  minor : Nat
  patch : Option { digits : List Char // digits ≠ [] ∧ ∀ c ∈ digits, c.isDigit = true }

namespace Version

/-- What follows the two numbers. -/
def tail (v : Version) : List Char :=
  match v.patch with
  | none => []
  | some digits => '.' :: digits.val

/-- The version as it is written. -/
def text (v : Version) : String :=
  toString v.major ++ "." ++ toString v.minor ++ String.ofList v.tail

/-- Whether a version is 1.40 or a later one. -/
def isFlat (v : Version) : Bool :=
  1 < v.major || (v.major == 1 && 40 ≤ v.minor)

/-- The number of hundredths for which the second number passes behind a single digit. -/
def hundredths (v : Version) : Nat :=
  if v.minor < 10 then v.minor * 10
  else Nat.ofDigitChars 10 ((Nat.toDigits 10 v.minor).take 2) 0

/-- Whether the first four characters of a version are a number. -/
def isLegible (v : Version) : Bool :=
  10 ≤ v.major || 10 ≤ v.minor || v.patch.isNone

/-- Whether a version passes for 1.40 or a later one. -/
def passesForFlat (v : Version) : Bool :=
  140 ≤ v.major * 100 + v.hundredths

/-- The versions that are not read or pass for others. -/
def isMisread (v : Version) : Bool :=
  !v.isLegible ||
    (v.major == 1 &&
      ((4 ≤ v.minor && v.minor < 10) || (100 ≤ v.minor && v.hundredths < 40)))

theorem toList_text (v : Version) :
    v.text.toList = Nat.toDigits 10 v.major ++ '.' :: (Nat.toDigits 10 v.minor ++ v.tail) := by
  simp [text]

theorem hundredths_lt (v : Version) : v.hundredths < 100 := by
  unfold hundredths
  split
  · omega
  · have ascii : ∀ c ∈ (Nat.toDigits 10 v.minor).take 2, c.isDigit = true :=
      fun c listed => Text.isDigit_of_mem_toDigits (List.mem_of_mem_take listed)
    have bound := Text.ofDigitChars_lt ascii
    have short := List.length_take_le 2 (Nat.toDigits 10 v.minor)
    exact Nat.lt_of_lt_of_le bound (Nat.pow_le_pow_right (by decide) short)

theorem hundredths_of_lt {v : Version} (least : 10 ≤ v.minor) (most : v.minor < 100) :
    v.hundredths = v.minor := by
  have short : (Nat.toDigits 10 v.minor).length ≤ 2 :=
    (Nat.length_toDigits_le_iff (by decide) (by decide)).mpr most
  unfold hundredths
  rw [if_neg (by omega), List.take_of_length_le short, Nat.ofDigitChars_ten_toDigits]

/-- Exactly the versions that are not misread are read, and pass for what they are. -/
theorem isMisread_eq_false_iff (v : Version) :
    v.isMisread = false ↔ v.isLegible = true ∧ v.passesForFlat = v.isFlat := by
  have bound := v.hundredths_lt
  unfold isMisread
  cases v.isLegible with
  | false => simp
  | true =>
      rw [Bool.eq_iff_iff (a := v.passesForFlat)]
      simp only [Bool.not_true, Bool.false_or, passesForFlat, isFlat, true_and,
        Bool.and_eq_false_iff, Bool.or_eq_false_iff, Bool.or_eq_true, Bool.and_eq_true,
        beq_eq_false_iff_ne, beq_iff_eq, decide_eq_true_eq, decide_eq_false_iff_not]
      by_cases single : v.minor < 10
      · have tenths : v.hundredths = v.minor * 10 := by
          unfold hundredths
          rw [if_pos single]
        omega
      · by_cases double : v.minor < 100
        · have own := hundredths_of_lt (by omega) double
          omega
        · omega

end Version

/-! ## Reading the first characters -/

theorem sign_of_digit {c : Char} {rest : List Char} (digit : c.isDigit = true) :
    Number.sign (c :: rest) = (false, c :: rest) := by
  unfold Number.sign
  split
  · rename_i same
    cases same
    cases digit
  · rename_i same
    cases same
    cases digit
  · rfl

/-- A number that starts with a digit has no sign and is not one of the named ones. -/
theorem ofText?_of_digit {c : Char} {rest : List Char} (digit : c.isDigit = true) :
    Number.ofText? (String.ofList (c :: rest)) =
      (Number.decimal? (c :: rest)).map (fun magnitude => .finite false magnitude) := by
  have named : ∀ first others, String.ofList ((c :: rest).map Char.toLower) =
      String.ofList (first :: others) → c = first := by
    intro first others same
    have characters := congrArg String.toList same
    rw [String.toList_ofList, String.toList_ofList, List.map_cons,
      Text.toLower_of_isDigit digit] at characters
    exact (List.cons.inj characters).1
  unfold Number.ofText?
  rw [String.toList_ofList, sign_of_digit digit]
  dsimp only
  split
  case h_1 same =>
    cases named 'n' ['a', 'n'] same
    cases digit
  case h_2 same =>
    cases named 'i' ['n', 'f'] same
    cases digit
  case h_3 same =>
    cases named 'i' ['n', 'f', 'i', 'n', 'i', 't', 'y'] same
    cases digit
  case h_4 => rfl

/-- What may follow the digits before the point: nothing, or the point and more digits. -/
inductive Fraction : List Char → List Char → Prop where
  | none : Fraction [] []
  | digits {fraction : List Char} (ascii : ∀ c ∈ fraction, c.isDigit = true) :
      Fraction ('.' :: fraction) fraction

/-- Digits with a point among them are the number that they write without it, and as many
powers of ten less as there are digits behind it. -/
theorem decimal?_of_fraction {whole behind fraction : List Char} (written : whole ≠ [])
    (ascii : ∀ c ∈ whole, c.isDigit = true) (point : Fraction behind fraction) :
    Number.decimal? (whole ++ behind) =
      some ⟨Nat.ofDigitChars 10 (whole ++ fraction) 0, -(fraction.length : Int)⟩ := by
  have front : (whole ++ behind).span Char.isDigit = (whole, behind) := by
    rw [Text.span_eq_iff]
    refine ⟨ascii, rfl, ?_⟩
    cases point <;> rfl
  have digits : Text.decimal? (whole ++ fraction) =
      some (Nat.ofDigitChars 10 (whole ++ fraction) 0) := by
    rw [Text.decimal?_eq_some_iff]
    refine ⟨List.append_ne_nil_of_left_ne_nil written _, ?_, rfl⟩
    intro c listed
    rcases List.mem_append.mp listed with early | late
    · exact ascii c early
    · cases point with
      | none => cases late
      | digits others => exact others c late
  unfold Number.decimal?
  rw [front]
  cases point with
  | none =>
      simp only [digits, Number.exponent?]
      rfl
  | digits others =>
      have all : fraction.span Char.isDigit = (fraction, []) := by
        rw [Text.span_eq_iff]
        exact ⟨others, (List.append_nil _).symm, rfl⟩
      simp only [all, digits, Number.exponent?]
      simp

/-- Behind a second point nothing is read. -/
theorem decimal?_of_two_points {whole fraction rest : List Char}
    (ascii : ∀ c ∈ whole, c.isDigit = true) (others : ∀ c ∈ fraction, c.isDigit = true) :
    Number.decimal? (whole ++ '.' :: (fraction ++ '.' :: rest)) = none := by
  have front : (whole ++ '.' :: (fraction ++ '.' :: rest)).span Char.isDigit =
      (whole, '.' :: (fraction ++ '.' :: rest)) :=
    Text.span_eq_iff.mpr ⟨ascii, rfl, rfl⟩
  have middle : (fraction ++ '.' :: rest).span Char.isDigit = (fraction, '.' :: rest) :=
    Text.span_eq_iff.mpr ⟨others, rfl, rfl⟩
  unfold Number.decimal?
  rw [front]
  simp only [middle]
  cases Text.decimal? (whole ++ fraction) with
  | none => rfl
  | some digits => rfl

theorem atLeastTenths_iff {tenths digits places : Nat} :
    Number.atLeastTenths tenths (.finite false ⟨digits, -(places : Int)⟩) = true ↔
      tenths * Nat.pow 10 places ≤ digits * 10 := by
  change _ ↔ tenths * 10 ^ places ≤ digits * 10
  unfold Number.atLeastTenths
  cases places with
  | zero => simp
  | succ places =>
      have exponent : -((places + 1 : Nat) : Int) = Int.negSucc places := rfl
      simp only [exponent, Bool.false_eq_true, if_false, decide_eq_true_eq]
      rfl

/-! ## Reading a version -/

theorem hasFlatHeaders_of_head {version : String} {whole behind fraction : List Char}
    (head : version.toList.take 4 = whole ++ behind) (written : whole ≠ [])
    (ascii : ∀ c ∈ whole, c.isDigit = true) (point : Fraction behind fraction) :
    hasFlatHeaders version =
      .ok (decide (14 * Nat.pow 10 fraction.length ≤
        Nat.ofDigitChars 10 (whole ++ fraction) 0 * 10)) := by
  have read : Number.ofText? (versionHead version) = some (.finite false
      ⟨Nat.ofDigitChars 10 (whole ++ fraction) 0, -(fraction.length : Int)⟩) := by
    unfold versionHead Text.leading
    rw [head]
    rcases List.exists_cons_of_ne_nil written with ⟨c, rest, rfl⟩
    rw [List.cons_append, ofText?_of_digit (ascii c List.mem_cons_self), ← List.cons_append,
      decimal?_of_fraction written ascii point]
    rfl
  unfold hasFlatHeaders
  rw [read]
  exact congrArg Except.ok (Bool.eq_iff_iff.mpr
    (atLeastTenths_iff.trans decide_eq_true_iff.symm))

namespace Version

variable {v : Version}

/-- Up to two characters from the point on are the point and digits. -/
theorem exists_fraction (v : Version) {room : Nat} (short : room ≤ 2) :
    ∃ fraction,
      Fraction (('.' :: (Nat.toDigits 10 v.minor ++ v.tail)).take room) fraction := by
  cases room with
  | zero => exact ⟨[], .none⟩
  | succ places =>
      have first : places ≤ (Nat.toDigits 10 v.minor).length := by
        have one := Nat.length_toDigits_pos (b := 10) (n := v.minor)
        omega
      rw [List.take_succ_cons, List.take_append_of_le_length first]
      exact ⟨_, .digits (fun c listed =>
        Text.isDigit_of_mem_toDigits (List.mem_of_mem_take listed))⟩

/-- With two digits or more in front of the point, a version passes for a late one. -/
theorem hasFlatHeaders_of_wide (wide : 10 ≤ v.major) : hasFlatHeaders v.text = .ok true := by
  rcases Text.exists_toDigits_eq_cons (n := v.major) (by omega) with
    ⟨d, rest, nonzero, small, digits⟩
  have more : rest ≠ [] := by
    rintro rfl
    have short : (Nat.toDigits 10 v.major).length ≤ 1 := by
      rw [digits]
      exact Nat.le_refl 1
    have least := (Nat.length_toDigits_le_iff (by decide) (by decide)).mp short
    omega
  have head : v.text.toList.take 4 = (d.digitChar :: rest.take 3) ++
      ('.' :: (Nat.toDigits 10 v.minor ++ v.tail)).take (3 - rest.length) := by
    rw [toList_text, digits, List.take_append, List.take_succ_cons, List.length_cons]
    congr 2
    omega
  have ascii : ∀ c ∈ d.digitChar :: rest.take 3, c.isDigit = true := by
    intro c listed
    have front : c ∈ Nat.toDigits 10 v.major := by
      rw [digits]
      rcases List.mem_cons.mp listed with rfl | later
      · exact List.mem_cons_self
      · exact List.mem_cons_of_mem _ (List.mem_of_mem_take later)
    exact Text.isDigit_of_mem_toDigits front
  have some : 1 ≤ rest.length := List.length_pos_iff.mpr more
  have short : 3 - rest.length ≤ 2 := by omega
  rcases v.exists_fraction short with ⟨fraction, point⟩
  rw [hasFlatHeaders_of_head head (List.cons_ne_nil _ _) ascii point, List.cons_append,
    Nat.ofDigitChars_cons_digitChar_of_lt_ten small, Nat.ofDigitChars_append,
    Nat.ofDigitChars_eq_ofDigitChars_zero (l := fraction),
    Nat.ofDigitChars_eq_ofDigitChars_zero (l := rest.take 3)]
  -- The two leading digits alone are worth ten.
  have tens : 10 ≤ 10 ^ (rest.take 3).length * (10 * 0 + d) := by
    have front : 1 ≤ (rest.take 3).length := by
      rw [List.length_take]
      omega
    have ten := Nat.pow_le_pow_right (n := 10) (by decide) front
    calc
      10 ≤ 10 ^ (rest.take 3).length := ten
      _ ≤ 10 ^ (rest.take 3).length * (10 * 0 + d) := Nat.le_mul_of_pos_right _ (by omega)
  have scaled := Nat.mul_le_mul_left (10 ^ fraction.length)
    (Nat.le_trans tens (Nat.le_add_right _ (Nat.ofDigitChars 10 (rest.take 3) 0)))
  have power : Nat.pow 10 fraction.length = 10 ^ fraction.length := rfl
  congr 1
  rw [decide_eq_true_iff, power]
  omega

/-- With one digit in front of the point, the next two characters count as a fraction. -/
theorem hasFlatHeaders_of_point {fraction : List Char} (narrow : v.major < 10)
    (behind : (Nat.toDigits 10 v.minor ++ v.tail).take 2 = fraction)
    (ascii : ∀ c ∈ fraction, c.isDigit = true) :
    hasFlatHeaders v.text =
      .ok (decide (14 * Nat.pow 10 fraction.length ≤
        (Nat.pow 10 fraction.length * v.major + Nat.ofDigitChars 10 fraction 0) * 10)) := by
  have head : v.text.toList.take 4 = [v.major.digitChar] ++ '.' :: fraction := by
    rw [toList_text, Nat.toDigits_of_lt_base narrow, ← behind]
    rfl
  rw [hasFlatHeaders_of_head head (List.cons_ne_nil _ _)
      (fun _ => Text.isDigit_of_mem_digitChar narrow) (.digits ascii),
    List.singleton_append, Nat.ofDigitChars_cons_digitChar_of_lt_ten narrow,
    Nat.ofDigitChars_eq_ofDigitChars_zero, Nat.mul_zero, Nat.zero_add]
  rfl

/-- With one digit in front of the point, the second number counts as hundredths. -/
theorem hasFlatHeaders_of_narrow (narrow : v.major < 10) (legible : 10 ≤ v.minor ∨ v.patch = none) :
    hasFlatHeaders v.text = .ok v.passesForFlat := by
  unfold passesForFlat
  by_cases single : v.minor < 10
  · have own := Nat.toDigits_of_lt_base single
    have hundredths : v.hundredths = v.minor * 10 := if_pos single
    have behind : (Nat.toDigits 10 v.minor ++ v.tail).take 2 = Nat.toDigits 10 v.minor := by
      have none : v.patch = none := legible.resolve_left (by omega)
      unfold tail
      rw [none, own]
      rfl
    rw [hasFlatHeaders_of_point narrow behind (fun _ => Text.isDigit_of_mem_toDigits)]
    congr 1
    rw [decide_eq_decide, Nat.ofDigitChars_ten_toDigits, own, hundredths, List.length_singleton]
    change 14 * 10 ≤ (10 * v.major + v.minor) * 10 ↔ _
    omega
  · have long : 2 ≤ (Nat.toDigits 10 v.minor).length := by
      have least : ¬ (Nat.toDigits 10 v.minor).length ≤ 1 := by
        rw [Nat.length_toDigits_le_iff (by decide) (by decide)]
        omega
      omega
    have hundredths : v.hundredths =
        Nat.ofDigitChars 10 ((Nat.toDigits 10 v.minor).take 2) 0 := if_neg single
    have behind : (Nat.toDigits 10 v.minor ++ v.tail).take 2 =
        (Nat.toDigits 10 v.minor).take 2 := List.take_append_of_le_length long
    rw [hasFlatHeaders_of_point narrow behind
      (fun _ listed => Text.isDigit_of_mem_toDigits (List.mem_of_mem_take listed))]
    congr 1
    rw [decide_eq_decide, ← hundredths, List.length_take_of_le long]
    change 14 * 100 ≤ (100 * v.major + v.hundredths) * 10 ↔ _
    omega

/-- Between two points a single digit is not read. -/
theorem hasFlatHeaders_of_two_points (narrow : v.major < 10) (single : v.minor < 10)
    (third : v.patch ≠ none) : hasFlatHeaders v.text = .error (.invalidVersion "Boost" v.text) := by
  have tail : ∃ rest, v.tail = '.' :: rest := by
    unfold tail
    cases patch : v.patch with
    | none => exact absurd patch third
    | some digits => exact ⟨digits.val, rfl⟩
  rcases tail with ⟨rest, tail⟩
  have digit := Nat.toDigits_of_lt_base narrow
  have digit' := Nat.toDigits_of_lt_base single
  have ascii : ∀ c ∈ [v.major.digitChar], c.isDigit = true :=
    fun _ => Text.isDigit_of_mem_digitChar narrow
  have ascii' : ∀ c ∈ [v.minor.digitChar], c.isDigit = true :=
    fun _ => Text.isDigit_of_mem_digitChar single
  have head : v.text.toList.take 4 =
      [v.major.digitChar] ++ '.' :: ([v.minor.digitChar] ++ ['.']) := by
    rw [toList_text, digit, digit', tail]
    rfl
  rw [Relocatable.hasFlatHeaders_eq_error_iff]
  refine ⟨?_, rfl⟩
  unfold versionHead Text.leading
  rw [head, List.singleton_append, ofText?_of_digit (ascii _ List.mem_cons_self),
    ← List.singleton_append, decimal?_of_two_points ascii ascii']
  rfl

/-- What the first characters of a version say about its headers. -/
theorem hasFlatHeaders_text (v : Version) :
    hasFlatHeaders v.text =
      if v.isLegible then .ok v.passesForFlat else .error (.invalidVersion "Boost" v.text) := by
  by_cases wide : 10 ≤ v.major
  · have legible : v.isLegible = true := by simp [isLegible, wide]
    have passes : v.passesForFlat = true := decide_eq_true (by omega)
    rw [hasFlatHeaders_of_wide wide, if_pos legible, passes]
  · by_cases read : 10 ≤ v.minor ∨ v.patch = none
    · have legible : v.isLegible = true := by
        rcases read with long | none
        · simp [isLegible, long]
        · simp [isLegible, none]
      rw [hasFlatHeaders_of_narrow (by omega) read, if_pos legible]
    · rcases not_or.mp read with ⟨single, third⟩
      have illegible : ¬ v.isLegible = true := by
        simp [isLegible, wide, single, third]
      rw [hasFlatHeaders_of_two_points (by omega) (by omega) third, if_neg illegible]

end Version

/-- The directory of headers of a version, if it is flat or not. -/
theorem headerPath_eq (base : Path) (version : String) (flat : Bool) :
    headerPath base version flat =
      if flat then base.child "include"
      else (base.child "include").child ("boost-" ++ Text.replaceChar '.' '_' version) := rfl

end Boost

namespace Relocatable

section Headers

variable {t : FileTree} {base : Path} {p : Profile} {suffix : String} {v : Boost.Version}

/-- A version that is legible is used with the directory of headers for which it passes. -/
theorem succeeds_of_legible (present : t.present base = true)
    (shows : Boost.Shows (Glob.seen t (base.child "lib")) suffix) (legible : v.isLegible = true) :
    ∃ p', (relocate t (.boost v.text) base).Succeeds p () p' ∧
      p'.includePaths =
        p.includePaths.filter
            ((boost v.text).keeps .headers (p.relocations.find? "boost")) ++
          [Boost.headerPath base v.text v.passesForFlat] := by
  rcases libPath_of_present present with ⟨written, opened⟩
  have flat := v.hasFlatHeaders_text
  rw [if_pos legible] at flat
  have found : boostSuffix t v.text base = .ok suffix := by
    unfold boostSuffix
    rw [flat]
    exact (Boost.suffix_eq_ok_iff written opened).mpr shows
  have headers : (boost v.text).added base .headers =
      [Boost.headerPath base v.text v.passesForFlat] := by
    simp only [added, flat, Except.toOption, Option.map_some, Option.toList_some]
  rw [← headers]
  exact ⟨_, relocateBoost_succeeds_iff.mpr ⟨present, suffix, found, rfl⟩, rfl⟩

/-- With the place and its library there, a version that is not misread is used with the directory
of headers that belongs to it.  One that is misread is refused if it is illegible, and used with
the wrong directory otherwise. -/
theorem headers_of_boost_version (v : Boost.Version) (present : t.present base = true)
    (shows : Boost.Shows (Glob.seen t (base.child "lib")) suffix) :
    (v.isMisread = false →
      ∃ p', (relocate t (.boost v.text) base).Succeeds p () p' ∧
        p'.includePaths =
          p.includePaths.filter
              ((boost v.text).keeps .headers (p.relocations.find? "boost")) ++
            [if v.isFlat then base.child "include"
              else (base.child "include").child
                ("boost-" ++ Text.replaceChar '.' '_' v.text)]) ∧
    (v.isMisread = true → v.isLegible = false →
      (relocate t (.boost v.text) base p).result = .error (.invalidVersion "Boost" v.text)) ∧
    (v.isMisread = true → v.isLegible = true →
      ∃ p', (relocate t (.boost v.text) base).Succeeds p () p' ∧
        p'.includePaths =
          p.includePaths.filter
              ((boost v.text).keeps .headers (p.relocations.find? "boost")) ++
            [if v.isFlat then
                (base.child "include").child ("boost-" ++ Text.replaceChar '.' '_' v.text)
              else base.child "include"]) := by
  refine ⟨?_, ?_, ?_⟩
  · intro right
    rcases v.isMisread_eq_false_iff.mp right with ⟨legible, same⟩
    rw [← same, ← Boost.headerPath_eq]
    exact succeeds_of_legible present shows legible
  · intro _ illegible
    have flat := v.hasFlatHeaders_text
    rw [illegible, if_neg Bool.false_ne_true] at flat
    rw [relocate, (relocateBoost_of_present v.text p present).1]
    unfold boostSuffix
    rw [flat]
    rfl
  · intro wrong legible
    have other : v.passesForFlat = !v.isFlat := by
      apply Bool.eq_not.mpr
      intro same
      rw [v.isMisread_eq_false_iff.mpr ⟨legible, same⟩] at wrong
      cases wrong
    have swapped : Boost.headerPath base v.text v.passesForFlat =
        if v.isFlat then
          (base.child "include").child ("boost-" ++ Text.replaceChar '.' '_' v.text)
        else base.child "include" := by
      rw [other, Boost.headerPath_eq]
      cases v.isFlat <;> rfl
    rw [← swapped]
    exact succeeds_of_legible present shows legible

/-- A place with a library file whose name has no suffix. -/
def plainBoost : FileTree :=
  (FileTree.empty.putFile? ["b", "lib", "libboost_serialization.so"] [] false).getD
    FileTree.empty

theorem shows_plainBoost :
    Boost.Shows (Glob.seen plainBoost (Path.child ⟨"b"⟩ "lib")) "" := by
  rw [← Boost.suffix_eq_ok_iff (by decide) (by decide),
    Boost.suffix_eq (by decide) (by decide)]
  decide

/-- Not every version is used with the directory of headers that belongs to it. -/
theorem not_forall_headers :
    ¬ ∀ (t : FileTree) (base : Path) (p : Profile) (suffix : String) (v : Boost.Version),
      t.present base = true → Boost.Shows (Glob.seen t (base.child "lib")) suffix →
        ∃ p', (relocate t (.boost v.text) base).Succeeds p () p' ∧
          p'.includePaths =
            p.includePaths.filter
                ((boost v.text).keeps .headers (p.relocations.find? "boost")) ++
              [if v.isFlat then base.child "include"
                else (base.child "include").child
                  ("boost-" ++ Text.replaceChar '.' '_' v.text)] := by
  intro right
  rcases right plainBoost ⟨"b"⟩ Profile.plain "" ⟨1, 100, none⟩ (by decide) shows_plainBoost with
    ⟨p', succeeds, includes⟩
  rcases relocateBoost_succeeds_iff.mp succeeds with ⟨_, suffix, _, rfl⟩
  change (withoutBoost _ _ Profile.plain).includePaths = _ at includes
  revert includes
  decide

/-- A version with a third part that comes before 1.40. -/
theorem headers_of_boost_version_old :
    (plainBoost.present ⟨"b"⟩ = true ∧
      Boost.Shows (Glob.seen plainBoost (Path.child ⟨"b"⟩ "lib")) "") ∧
    ∃ p', (relocate plainBoost (.boost "1.33.1") ⟨"b"⟩).Succeeds Profile.plain () p' ∧
      p'.includePaths = [⟨"b/include/boost-1_33_1"⟩] := by
  have whole := headers_of_boost_version (p := Profile.plain)
    ⟨1, 33, some ⟨['1'], nofun, by simp⟩⟩
    (show plainBoost.present ⟨"b"⟩ = true by decide) shows_plainBoost
  exact ⟨⟨by decide, shows_plainBoost⟩, whole.1 (by decide)⟩

end Headers

end Relocatable
end HostLink
