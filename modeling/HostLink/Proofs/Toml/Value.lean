import HostLink.Proofs.Toml.Number
import HostLink.Proofs.Toml.Text
import HostLink.Toml.Reader

namespace HostLink
namespace Toml

/-!
# Values that were written are read back

Texts, truth values, natural numbers and arrays of such values are read back, on one line or
spread over several, up to whatever can follow a value.  Arrays may stand inside one another as
deep as they are read.  How a value starts tells its kind, and no value starts like a space, a
line end, a comment or the end of an array, so what stands between the items of an array is
skipped up to the next item.
-/

/-- The values that are considered, with a bound for the arrays that stand inside one another. -/
inductive Plain : Nat → Value → Prop where
  | text {depth : Nat} (s : String) : Plain depth (.text s)
  | boolean {depth : Nat} (b : Bool) : Plain depth (.boolean b)
  | natural {depth n : Nat} (held : n ≤ 9223372036854775807) : Plain depth (.integer n)
  | array {depth : Nat} {items : List Value} (each : ∀ v ∈ items, Plain depth v) :
      Plain (depth + 1) (.array items)

/-- What can follow a value: the next item, the end of the array, or the end of the line. -/
inductive Closed : List Char → Prop where
  | comma (rest : List Char) : Closed (',' :: rest)
  | bracket (rest : List Char) : Closed (']' :: rest)
  | lineEnd (rest : List Char) : Closed ('\n' :: rest)

theorem Closed.noMark {rest : List Char} (closed : Closed rest) : NoMark rest := by
  cases closed <;> exact ⟨by simp, by simp⟩

theorem Closed.numberEnds {rest : List Char} (closed : Closed rest) : NumberEnds rest := by
  cases closed <;> exact ⟨rfl, by simp [continuing]⟩

/-! ## Between the items -/

/-- A character at which nothing is skipped. -/
structure Visible (c : Char) : Prop where
  space : isSpace c = false
  lineEnd : c ≠ '\n' ∧ c ≠ '\r'
  comment : c ≠ '#'

section

variable {c : Char} {text : List Char}

theorem skipSpaces_spaces {spaces : List Char} (blank : spaces.all isSpace = true)
    (visible : Visible c) : skipSpaces (spaces ++ c :: text) = c :: text := by
  have stops : ¬ isSpace c = true := Bool.eq_false_iff.mp visible.space
  rw [skipSpaces, List.dropWhile_append_of_pos (List.all_eq_true.mp blank), List.dropWhile_cons_of_neg stops]

theorem skipSpaces_of_visible (visible : Visible c) : skipSpaces (c :: text) = c :: text :=
  @skipSpaces_spaces c text [] rfl visible

theorem skipComment_of_visible (visible : Visible c) : skipComment (c :: text) = c :: text := by
  unfold skipComment
  split
  · rename_i same
    exact absurd (List.cons.inj same).1 visible.comment
  · rfl

theorem lineEnd?_of_visible (visible : Visible c) : lineEnd? (c :: text) = none := by
  unfold lineEnd?
  split
  · rename_i same
    exact absurd (List.cons.inj same).1 visible.lineEnd.1
  · rename_i same
    exact absurd (List.cons.inj same).1 visible.lineEnd.2
  · rfl

theorem skipFiller_spaces {spaces : List Char} (blank : spaces.all isSpace = true)
    (visible : Visible c) (fuel : Nat) :
    skipFiller (fuel + 1) (spaces ++ c :: text) = c :: text := by
  rw [skipFiller]
  simp only [skipSpaces_spaces blank visible, skipComment_of_visible visible,
    lineEnd?_of_visible visible]

theorem skipFiller_of_visible (visible : Visible c) (fuel : Nat) :
    skipFiller fuel (c :: text) = c :: text := by
  cases fuel with
  | zero => rfl
  | succ fuel => exact @skipFiller_spaces c text [] rfl visible fuel

theorem skipFiller_lineEnd (fuel : Nat) (text : List Char) :
    skipFiller (fuel + 1) ('\n' :: text) = skipFiller fuel text :=
  rfl

end

theorem visible_comma : Visible ',' :=
  ⟨rfl, by decide, by decide⟩

theorem visible_bracket : Visible ']' :=
  ⟨rfl, by decide, by decide⟩

theorem visible_of_isDigit {c : Char} (digit : c.isDigit = true) : Visible c ∧ c ≠ ']' := by
  have other : ∀ d ∈ [' ', '\t', '\n', '\r', '#', ']'], c ≠ d :=
    ne_of_all_not (by decide) digit
  simp only [List.forall_mem_cons, List.not_mem_nil] at other
  rcases other with ⟨space, tab, newline, carriage, comment, bracket, _⟩
  refine ⟨⟨?_, ⟨newline, carriage⟩, comment⟩, bracket⟩
  simp [isSpace, space, tab]

theorem written_natural (n : Nat) : (Value.integer n).written = Nat.toDigits 10 n := by
  rw [Value.written]
  exact Nat.toList_repr

/-- How a value starts. -/
theorem exists_written_eq_cons {depth : Nat} {v : Value} (plain : Plain depth v) :
    ∃ c text, v.written = c :: text ∧ Visible c ∧ c ≠ ']' := by
  cases plain with
  | text s =>
      rcases exists_writtenText_eq_cons s.toList with ⟨mark, body, form, rfl | rfl⟩
      all_goals exact ⟨_, body, by rw [Value.written, form], ⟨rfl, by decide, by decide⟩, by decide⟩
  | boolean b =>
      cases b
      all_goals exact ⟨_, _, rfl, ⟨rfl, by decide, by decide⟩, by decide⟩
  | @natural _ n =>
      rcases exists_toDigits_append_eq_cons n [] with ⟨c, text, form, digit⟩
      rw [List.append_nil] at form
      exact ⟨c, text, (written_natural n).trans form, visible_of_isDigit digit⟩
  | array => exact ⟨_, _, rfl, ⟨rfl, by decide, by decide⟩, by decide⟩

/-! ## The items of an array -/

theorem sign?_self (c : Char) (rest : List Char) : sign? c (c :: rest) = some rest :=
  if_pos rfl

/-- A value is read back in front of anything that can follow it. -/
def ReadsBack (readItem? : List Char → Option (Value × List Char)) (v : Value) : Prop :=
  ∀ rest, Closed rest → readItem? (v.written ++ rest) = some (v, rest)

section

variable {readItem? : List Char → Option (Value × List Char)} {depth fuel : Nat}
  {text rest : List Char} {v : Value} {items : List Value}

theorem sign?_written (plain : Plain depth v) (text : List Char) :
    sign? ']' (v.written ++ text) = none := by
  rcases exists_written_eq_cons plain with ⟨c, more, form, _, bracket⟩
  rw [form]
  exact if_neg bracket

/-- At the closing bracket there are no more items. -/
theorem readItems?_nil (skipped : skipFiller text.length text = ']' :: rest) :
    readItems? readItem? (fuel + 1) text = some ([], rest) := by
  rw [readItems?, skipped]
  rfl

/-- An item in front of a comma is followed by more items, or by none. -/
theorem readItems?_cons (plain : Plain depth v) (reads : ReadsBack readItem? v)
    {later : List Char} (skipped : skipFiller text.length text = v.written ++ ',' :: later) :
    readItems? readItem? (fuel + 1) text =
      (readItems? readItem? fuel later).map (fun r => (v :: r.1, r.2)) := by
  rw [readItems?, skipped]
  simp only [sign?_written plain, reads _ (.comma later), Option.bind_eq_bind, Option.bind_some,
    skipFiller_of_visible visible_comma, sign?_self]
  cases readItems? readItem? fuel later <;> rfl

/-- The last item may stand in front of the bracket without a comma. -/
theorem readItems?_last (plain : Plain depth v) (reads : ReadsBack readItem? v)
    (skipped : skipFiller text.length text = v.written ++ ']' :: rest) :
    readItems? readItem? (fuel + 1) text = some ([v], rest) := by
  rw [readItems?, skipped]
  have comma : sign? ',' (']' :: rest) = none := rfl
  simp only [sign?_written plain, reads _ (.bracket rest), Option.bind_eq_bind, Option.bind_some,
    skipFiller_of_visible visible_bracket, comma, sign?_self]
  rfl

/-! ### On one line -/

theorem writtenItems_cons_cons (v w : Value) (items : List Value) :
    writtenItems (v :: w :: items) = v.written ++ ',' :: ' ' :: writtenItems (w :: items) := by
  simp [writtenItems]

theorem exists_writtenItems_eq_cons (plain : ∀ v ∈ items, Plain depth v) (rest : List Char) :
    ∃ c text, writtenItems items ++ ']' :: rest = c :: text ∧ Visible c := by
  match items, plain with
  | [], _ => exact ⟨']', rest, rfl, visible_bracket⟩
  | v :: items, plain =>
      rcases exists_written_eq_cons (plain v List.mem_cons_self) with ⟨c, text, form, visible, _⟩
      cases items with
      | nil => exact ⟨c, text ++ ']' :: rest, by rw [writtenItems, form, List.cons_append], visible⟩
      | cons w items =>
          rw [writtenItems_cons_cons, form]
          exact ⟨c, _, rfl, visible⟩

theorem length_le_writtenItems (plain : ∀ v ∈ items, Plain depth v) :
    items.length ≤ (writtenItems items).length := by
  induction items with
  | nil => exact Nat.le_refl 0
  | cons v items inductionHypothesis =>
      rcases List.forall_mem_cons.mp plain with ⟨own, others⟩
      have later := inductionHypothesis others
      cases items with
      | nil =>
          rcases exists_written_eq_cons own with ⟨c, text, form, _⟩
          rw [writtenItems, form]
          exact Nat.succ_le_succ (Nat.zero_le _)
      | cons w items =>
          simp only [writtenItems_cons_cons, List.length_append, List.length_cons] at later ⊢
          omega

theorem readItems?_writtenItems (plain : ∀ v ∈ items, Plain depth v)
    (reads : ∀ v ∈ items, ReadsBack readItem? v) (enough : items.length < fuel)
    (skipped : skipFiller text.length text = writtenItems items ++ ']' :: rest) :
    readItems? readItem? fuel text = some (items, rest) := by
  induction items generalizing fuel text with
  | nil =>
      obtain ⟨fuel, rfl⟩ := Nat.exists_eq_succ_of_ne_zero (Nat.ne_of_gt enough)
      exact readItems?_nil skipped
  | cons v items inductionHypothesis =>
      obtain ⟨fuel, rfl⟩ := Nat.exists_eq_succ_of_ne_zero (Nat.ne_zero_of_lt enough)
      rcases List.forall_mem_cons.mp plain with ⟨own, others⟩
      rcases List.forall_mem_cons.mp reads with ⟨back, backs⟩
      cases items with
      | nil => exact readItems?_last own back skipped
      | cons w items =>
          let later := writtenItems (w :: items) ++ ']' :: rest
          have shown : writtenItems (v :: w :: items) ++ ']' :: rest =
              v.written ++ ',' :: ' ' :: later := by
            simp [writtenItems_cons_cons, later]
          rw [shown] at skipped
          rcases exists_writtenItems_eq_cons others rest with ⟨c, more, form, visible⟩
          have spaced : skipFiller (' ' :: later).length (' ' :: later) = later := by
            rw [show later = c :: more from form]
            exact @skipFiller_spaces c more [' '] rfl visible _
          rw [readItems?_cons own back skipped,
            inductionHypothesis others backs (Nat.lt_of_succ_lt_succ enough) spaced,
            Option.map_some]

/-! ### One to a line -/

/-- An item on a line of its own. -/
def itemLine (v : Value) : List Char :=
  "    ".toList ++ v.written ++ [',', '\n']

theorem readItems?_itemLines (plain : ∀ v ∈ items, Plain depth v)
    (reads : ∀ v ∈ items, ReadsBack readItem? v) (enough : items.length < fuel) :
    readItems? readItem? fuel ('\n' :: (items.flatMap itemLine ++ ']' :: rest)) =
      some (items, rest) := by
  induction items generalizing fuel with
  | nil =>
      obtain ⟨fuel, rfl⟩ := Nat.exists_eq_succ_of_ne_zero (Nat.ne_of_gt enough)
      exact readItems?_nil (skipFiller_of_visible visible_bracket _)
  | cons v items inductionHypothesis =>
      obtain ⟨fuel, rfl⟩ := Nat.exists_eq_succ_of_ne_zero (Nat.ne_zero_of_lt enough)
      rcases List.forall_mem_cons.mp plain with ⟨own, others⟩
      rcases List.forall_mem_cons.mp reads with ⟨back, backs⟩
      let later := '\n' :: (items.flatMap itemLine ++ ']' :: rest)
      have shown : '\n' :: ((v :: items).flatMap itemLine ++ ']' :: rest) =
          '\n' :: ("    ".toList ++ (v.written ++ ',' :: later)) := by
        simp [itemLine, later]
      rcases exists_written_eq_cons own with ⟨c, more, form, visible, _⟩
      have skipped : skipFiller ('\n' :: ("    ".toList ++ (v.written ++ ',' :: later))).length
          ('\n' :: ("    ".toList ++ (v.written ++ ',' :: later))) = v.written ++ ',' :: later := by
        rw [List.length_cons, skipFiller_lineEnd, form]
        exact skipFiller_spaces (by decide) visible _
      rw [shown, readItems?_cons own back skipped,
        inductionHypothesis others backs (Nat.lt_of_succ_lt_succ enough), Option.map_some]

theorem length_le_itemLines (items : List Value) :
    items.length ≤ (items.flatMap itemLine).length := by
  induction items with
  | nil => exact Nat.le_refl 0
  | cons v items inductionHypothesis =>
      simp only [List.flatMap_cons, List.length_append, List.length_cons, itemLine]
      omega

end

/-! ## Any value -/

theorem readValue?_array {depth : Nat} {text rest : List Char} {items : List Value}
    (read : readItems? (readValue? (depth + 1)) (text.length + 1) text = some (items, rest)) :
    readValue? (depth + 2) ('[' :: text) = some (.array items, rest) := by
  rw [readValue?, if_neg (Nat.succ_ne_zero depth), read]
  rfl

theorem readValue?_of_isDigit {c : Char} (digit : c.isDigit = true) (depth : Nat)
    (text : List Char) : readValue? (depth + 1) (c :: text) = readNumber? (c :: text) := by
  have other : ∀ d ∈ ['\"', '\'', '[', '\x7b', 't', 'f'], c ≠ d :=
    ne_of_all_not (by decide) digit
  simp only [List.forall_mem_cons, List.not_mem_nil] at other
  rcases other with ⟨quote, apostrophe, bracket, brace, letterT, letterF, _⟩
  simp [readValue?, quote, apostrophe, bracket, brace, letterT, letterF]

theorem readsBack_of_plain {depth : Nat} {v : Value} (plain : Plain depth v) :
    ReadsBack (readValue? (depth + 1)) v := by
  induction plain with
  | text s =>
      intro rest closed
      have back := readText?_writtenText s.toList closed.noMark
      rw [Value.written]
      rcases exists_writtenText_eq_cons s.toList with ⟨mark, body, form, rfl | rfl⟩
      all_goals
        rw [form, List.cons_append] at back ⊢
        rw [readValue?, back, Option.map_some, String.ofList_toList]
  | boolean b =>
      intro rest _
      cases b <;> rfl
  | @natural depth n held =>
      intro rest closed
      have back := readNumber?_toDigits held closed.numberEnds
      rw [written_natural]
      rcases exists_toDigits_append_eq_cons n rest with ⟨c, text, form, digit⟩
      rw [form] at back ⊢
      rw [readValue?_of_isDigit digit, back]
  | @array depth items each inductionHypothesis =>
      intro rest closed
      have enough : items.length < (writtenItems items ++ ']' :: rest).length + 1 := by
        have short := length_le_writtenItems each
        rw [List.length_append]
        omega
      rcases exists_writtenItems_eq_cons each rest with ⟨c, text, form, visible⟩
      have skipped : skipFiller (writtenItems items ++ ']' :: rest).length
          (writtenItems items ++ ']' :: rest) = writtenItems items ++ ']' :: rest := by
        rw [form]
        exact skipFiller_of_visible visible _
      have read := readItems?_writtenItems each inductionHypothesis enough skipped
      rw [Value.written, List.append_assoc, List.append_assoc]
      exact readValue?_array read

theorem readValue?_itemLines {depth : Nat} {items : List Value}
    (each : ∀ v ∈ items, Plain depth v) (rest : List Char) :
    readValue? (depth + 2) (['[', '\n'] ++ items.flatMap itemLine ++ [']'] ++ rest) =
      some (.array items, rest) := by
  have enough : items.length < ('\n' :: (items.flatMap itemLine ++ ']' :: rest)).length + 1 := by
    have short := length_le_itemLines items
    rw [List.length_cons, List.length_append]
    omega
  have back : ∀ v ∈ items, ReadsBack (readValue? (depth + 1)) v :=
    fun v listed => readsBack_of_plain (each v listed)
  have read := @readItems?_itemLines _ _ _ rest _ each back enough
  have shown : ['[', '\n'] ++ items.flatMap itemLine ++ [']'] ++ rest =
      '[' :: '\n' :: (items.flatMap itemLine ++ ']' :: rest) := by
    simp
  rw [shown]
  exact readValue?_array read

/-- A value is read back in either style. -/
theorem readValue?_styled {depth : Nat} {v : Value} (plain : Plain depth v) (style : Style)
    {rest : List Char} (closed : Closed rest) :
    readValue? (depth + 1) (styled style v ++ rest) = some (v, rest) := by
  unfold styled
  split
  · cases plain with
    | array each => exact readValue?_itemLines each rest
  · exact readsBack_of_plain plain rest closed

/-- How a value starts in either style. -/
theorem exists_styled_eq_cons {depth : Nat} {v : Value} (plain : Plain depth v) (style : Style) :
    ∃ c text, styled style v = c :: text ∧ Visible c := by
  unfold styled
  split
  · exact ⟨_, _, rfl, ⟨rfl, by decide, by decide⟩⟩
  · rcases exists_written_eq_cons plain with ⟨c, text, form, visible, _⟩
    exact ⟨c, text, form, visible⟩

end Toml
end HostLink
