import HostLink.Proofs.Text.Digit
import HostLink.Toml.Text
import HostLink.Toml.Writer
import Mathlib.Data.List.Infix

namespace HostLink
namespace Toml

/-!
# Texts that were written are read back

A text is written in one of four forms, the first that can hold it.  Every form is read back up
to its closing marks, whatever stands behind them, as long as that is no further mark.  Hence a
text is read back in whatever form it was written, and so is a key, which has two of the forms
and a third one without marks.

Three marks close the long forms, and up to two more may stand before them.  So these forms are
read by looking ahead, and the runs of marks inside the text must be known to be short.
-/

/-! ## One character between quotation marks -/

theorem fourHexDigits_ascii : ∀ n < 128,
    (fourHexDigits n).length = 4 ∧ charOfHex? (fourHexDigits n) = some (Char.ofNat n) := by
  decide +kernel

theorem toNat_lt_of_isControl {c : Char} (control : isControl c = true) : c.toNat < 128 := by
  simp only [isControl, Bool.or_eq_true, Bool.and_eq_true, decide_eq_true_eq, beq_iff_eq] at control
  omega

theorem exists_fourHexDigits {c : Char} (control : isControl c = true) :
    ∃ h i j k, fourHexDigits c.toNat = [h, i, j, k] ∧ charOfHex? [h, i, j, k] = some c := by
  rcases fourHexDigits_ascii c.toNat (toNat_lt_of_isControl control) with ⟨four, value⟩
  rw [Char.ofNat_toNat] at value
  match digits : fourHexDigits c.toNat, four with
  | [h, i, j, k], _ => exact ⟨h, i, j, k, rfl, digits ▸ value⟩

/-- The ways to write a character that is no quotation mark between quotation marks. -/
inductive WrittenAs (isLong : Bool) (c : Char) : List Char → Prop where
  | letter {e : Char} (known : escape? e = some c) : WrittenAs isLong c ['\\', e]
  | code {h i j k : Char} (value : charOfHex? [h, i, j, k] = some c) :
      WrittenAs isLong c ['\\', 'u', h, i, j, k]
  | lineEnd (long : isLong = true) (newline : c = '\n') : WrittenAs isLong c ['\n']
  | plain (backslash : c ≠ '\\') (printable : isControl c = false) : WrittenAs isLong c [c]

theorem writtenAs_escaped (isLong : Bool) (c : Char) : WrittenAs isLong c (escaped isLong c) := by
  unfold escaped
  split
  · rename_i same
    exact .letter (congrArg some same.symm)
  split
  · rename_i same
    exact .letter (congrArg some same.symm)
  split
  · rename_i same
    cases isLong with
    | true => exact .lineEnd rfl same
    | false => exact .letter (congrArg some same.symm)
  split
  · rename_i same
    exact .letter (congrArg some same.symm)
  split
  · rename_i same
    exact .letter (congrArg some same.symm)
  split
  · rename_i same
    exact .letter (congrArg some same.symm)
  rename_i backslash
  split
  · rename_i control
    rcases exists_fourHexDigits control with ⟨h, i, j, k, digits, value⟩
    rw [digits]
    exact .code value
  · rename_i printable
    exact .plain backslash (Bool.eq_false_iff.mpr printable)

/-- The letters of code points stand for no character by themselves. -/
theorem ne_code_of_escape? {e c : Char} (known : escape? e = some c) : e ≠ 'u' ∧ e ≠ 'U' := by
  constructor <;> rintro rfl <;> cases known

theorem ne_lineEnd_of_printable {c : Char} (printable : isControl c = false) :
    c ≠ '\r' ∧ c ≠ '\n' := by
  constructor <;> rintro rfl <;> cases printable

@[simp]
theorem put_some (c : Char) (text rest : List Char) :
    put c (some (text, rest)) = some (c :: text, rest) :=
  rfl

/-! ## Texts on one line -/

theorem basicBody_letter {e c : Char} (known : escape? e = some c) (text : List Char) :
    basicBody ('\\' :: e :: text) = put c (basicBody text) := by
  simp [basicBody, ne_code_of_escape? known, known]

theorem basicBody_plain {c : Char} (quote : c ≠ '\"') (backslash : c ≠ '\\')
    (printable : isControl c = false) (text : List Char) :
    basicBody (c :: text) = put c (basicBody text) := by
  simp [basicBody, backslash, printable]

theorem basicBody_escaped {c : Char} (quote : c ≠ '\"') (text : List Char) :
    basicBody (escaped false c ++ text) = put c (basicBody text) := by
  have written := writtenAs_escaped false c
  generalize escaped false c = form at written
  cases written with
  | letter known => exact basicBody_letter known text
  | code value =>
      change basicBody ('\\' :: 'u' :: _ :: _ :: _ :: _ :: text) = _
      rw [basicBody, value, Option.bind_some]
  | lineEnd long _ => cases long
  | plain backslash printable => exact basicBody_plain quote backslash printable text

theorem escapedBody_other {c : Char} (quote : c ≠ '\"') (isLong : Bool) (marks : Nat)
    (text : List Char) :
    escapedBody isLong marks (c :: text) = escaped isLong c ++ escapedBody isLong 0 text := by
  rw [escapedBody, if_neg quote]

theorem basicBody_escapedBody (text rest : List Char) :
    basicBody (escapedBody false 0 text ++ '\"' :: rest) = some (text, rest) := by
  induction text with
  | nil => rfl
  | cons c text inductionHypothesis =>
      by_cases quote : c = '\"'
      · subst quote
        change basicBody ('\\' :: '\"' :: (escapedBody false 0 text ++ '\"' :: rest)) = _
        rw [basicBody_letter rfl, inductionHypothesis, put_some]
      · rw [escapedBody_other quote, List.append_assoc, basicBody_escaped quote,
          inductionHypothesis, put_some]

theorem literalBody_append {text : List Char} (apostrophe : '\'' ∉ text)
    (printable : ∀ c ∈ text, isControl c = false) (rest : List Char) :
    literalBody (text ++ '\'' :: rest) = some (text, rest) := by
  induction text with
  | nil => rfl
  | cons c text inductionHypothesis =>
      rcases not_or.mp (mt List.mem_cons.mpr apostrophe) with ⟨mark, absent⟩
      rcases List.forall_mem_cons.mp printable with ⟨own, others⟩
      have step : literalBody (c :: (text ++ '\'' :: rest)) =
          put c (literalBody (text ++ '\'' :: rest)) := by
        simp [literalBody, Ne.symm mark, own]
      rw [List.cons_append, step, inductionHypothesis absent others, put_some]

/-! ## Texts of several lines with escapes -/

theorem longBasicBody_letter {e c : Char} (known : escape? e = some c) (text : List Char) :
    longBasicBody false ('\\' :: e :: text) = put c (longBasicBody false text) := by
  simp [longBasicBody, ne_code_of_escape? known, known]

theorem longBasicBody_plain {c : Char} (quote : c ≠ '\"') (backslash : c ≠ '\\')
    (printable : isControl c = false) (text : List Char) :
    longBasicBody false (c :: text) = put c (longBasicBody false text) := by
  simp [longBasicBody, quote, backslash, ne_lineEnd_of_printable printable, printable]

theorem longBasicBody_escaped {c : Char} (quote : c ≠ '\"') (text : List Char) :
    longBasicBody false (escaped true c ++ text) = put c (longBasicBody false text) := by
  have written := writtenAs_escaped true c
  generalize escaped true c = form at written
  cases written with
  | letter known => exact longBasicBody_letter known text
  | code value =>
      change longBasicBody false ('\\' :: 'u' :: _ :: _ :: _ :: _ :: text) = _
      rw [longBasicBody, value, Option.bind_some]
  | lineEnd _ newline =>
      rw [newline]
      change longBasicBody false ('\n' :: text) = _
      rw [longBasicBody, if_neg Bool.false_ne_true]
  | plain backslash printable => exact longBasicBody_plain quote backslash printable text

/-- A quotation mark that does not stand before two others belongs to the text. -/
theorem longBasicBody_quote {text : List Char} (single : ∀ rest, text ≠ '\"' :: '\"' :: rest) :
    longBasicBody false ('\"' :: text) = put '\"' (longBasicBody false text) := by
  have printable : isControl '\"' = false := rfl
  simp [longBasicBody, single, printable]

/-- Up to two quotation marks belong to the text when the closing ones follow. -/
theorem longBasicBody_end {rest : List Char} (behind : rest.head? ≠ some '\"') :
    longBasicBody false ('\"' :: '\"' :: '\"' :: rest) = some ([], rest) ∧
      longBasicBody false ('\"' :: '\"' :: '\"' :: '\"' :: rest) = some (['\"'], rest) ∧
      longBasicBody false ('\"' :: '\"' :: '\"' :: '\"' :: '\"' :: rest) =
        some (['\"', '\"'], rest) := by
  have none : ∀ later, rest ≠ '\"' :: later := by
    rintro later rfl
    exact behind rfl
  simp [longBasicBody, none]

/-- What is written for a character other than a quotation mark starts with no quotation mark. -/
theorem head?_escaped_append {c : Char} (isLong : Bool) (quote : c ≠ '\"') (text : List Char) :
    (escaped isLong c ++ text).head? ≠ some '\"' := by
  have written := writtenAs_escaped isLong c
  generalize escaped isLong c = form at written
  cases written with
  | plain => exact fun same => quote (Option.some.inj same)
  | _ => exact fun same => absurd (Option.some.inj same) (by decide)

theorem escapedBody_few {marks : Nat} (few : marks < 2) (text : List Char) :
    escapedBody true marks ('\"' :: text) = '\"' :: escapedBody true (marks + 1) text := by
  rw [escapedBody, if_pos rfl]
  exact if_pos few

theorem escapedBody_full {marks : Nat} (full : ¬ marks < 2) (text : List Char) :
    escapedBody true marks ('\"' :: text) = '\\' :: '\"' :: escapedBody true 0 text := by
  rw [escapedBody, if_pos rfl]
  exact if_neg full

/-- Behind a quotation mark, the text is over within one more of them, or no two follow. -/
theorem over_or_single (marks : Nat) (text rest : List Char) :
    text = [] ∨ (text = ['\"'] ∧ marks + 1 < 2) ∨
      ∀ later, escapedBody true (marks + 1) text ++ '\"' :: '\"' :: '\"' :: rest ≠
        '\"' :: '\"' :: later := by
  match text with
  | [] => exact Or.inl rfl
  | c :: text =>
      refine Or.inr ?_
      by_cases quote : c = '\"'
      · subst quote
        by_cases few : marks + 1 < 2
        · match text with
          | [] => exact Or.inl ⟨rfl, few⟩
          | d :: text =>
              refine Or.inr ?_
              intro later same
              rw [escapedBody_few few, List.cons_append] at same
              have second := congrArg List.head? (List.cons.inj same).2
              by_cases again : d = '\"'
              · rw [again, escapedBody_full (by omega)] at second
                exact absurd (Option.some.inj second) (by decide)
              · rw [escapedBody_other again, List.append_assoc] at second
                exact head?_escaped_append true again _ second
        · refine Or.inr ?_
          intro later same
          rw [escapedBody_full few] at same
          exact absurd (List.cons.inj same).1 (by decide)
      · refine Or.inr ?_
        intro later same
        rw [escapedBody_other quote, List.append_assoc] at same
        exact head?_escaped_append true quote _ (congrArg List.head? same)

theorem longBasicBody_escapedBody {rest : List Char} (behind : rest.head? ≠ some '\"')
    (text : List Char) (marks : Nat) :
    longBasicBody false (escapedBody true marks text ++ '\"' :: '\"' :: '\"' :: rest) =
      some (text, rest) := by
  rcases longBasicBody_end behind with ⟨none, one, two⟩
  induction text generalizing marks with
  | nil => exact none
  | cons c text inductionHypothesis =>
      by_cases quote : c = '\"'
      · subst quote
        by_cases few : marks < 2
        · rw [escapedBody_few few, List.cons_append]
          -- The marks of the text and the closing ones must not be taken for each other.
          rcases over_or_single marks text rest with rfl | ⟨rfl, fewer⟩ | single
          · exact one
          · rw [escapedBody_few fewer]
            exact two
          · rw [longBasicBody_quote single, inductionHypothesis, put_some]
        · rw [escapedBody_full few]
          change longBasicBody false ('\\' :: '\"' :: (escapedBody true 0 text ++ _)) = _
          rw [longBasicBody_letter rfl, inductionHypothesis, put_some]
      · rw [escapedBody_other quote, List.append_assoc, longBasicBody_escaped quote,
          inductionHypothesis, put_some]

/-! ## Texts of several lines as they are -/

theorem longLiteralBody_plain {c : Char} (mark : c ≠ '\'') (written : needsEscape c = false)
    (text : List Char) : longLiteralBody (c :: text) = put c (longLiteralBody text) := by
  by_cases newline : c = '\n'
  · rw [newline, longLiteralBody]
  · have printable : isControl c = false := by simpa [needsEscape, newline] using written
    simp [longLiteralBody, mark, ne_lineEnd_of_printable printable, printable]

/-- An apostrophe that does not stand before two others belongs to the text. -/
theorem longLiteralBody_apostrophe {text : List Char}
    (single : ∀ rest, text ≠ '\'' :: '\'' :: rest) :
    longLiteralBody ('\'' :: text) = put '\'' (longLiteralBody text) := by
  have printable : isControl '\'' = false := rfl
  simp [longLiteralBody, single, printable]

theorem longLiteralBody_end {rest : List Char} (behind : rest.head? ≠ some '\'') :
    longLiteralBody ('\'' :: '\'' :: '\'' :: rest) = some ([], rest) ∧
      longLiteralBody ('\'' :: '\'' :: '\'' :: '\'' :: rest) = some (['\''], rest) ∧
      longLiteralBody ('\'' :: '\'' :: '\'' :: '\'' :: '\'' :: rest) =
        some (['\'', '\''], rest) := by
  have none : ∀ later, rest ≠ '\'' :: later := by
    rintro later rfl
    exact behind rfl
  simp [longLiteralBody, none]

/-- In a text with short runs only, the same holds behind an apostrophe. -/
theorem over_or_single_of_short {text : List Char} (rest : List Char)
    (short : ¬ List.replicate 3 '\'' <:+: '\'' :: text) :
    text = [] ∨ text = ['\''] ∨
      ∀ later, text ++ '\'' :: '\'' :: '\'' :: rest ≠ '\'' :: '\'' :: later := by
  match text with
  | [] => exact Or.inl rfl
  | [c] =>
      by_cases mark : c = '\''
      · exact Or.inr (Or.inl (congrArg (fun d => [d]) mark))
      · exact Or.inr (Or.inr (fun later same => mark (List.cons.inj same).1))
  | c :: d :: text =>
      refine Or.inr (Or.inr ?_)
      intro later same
      rcases List.cons.inj same with ⟨rfl, next⟩
      rcases List.cons.inj next with ⟨rfl, _⟩
      exact short ⟨[], text, rfl⟩

theorem longLiteralBody_append {rest : List Char} (behind : rest.head? ≠ some '\'')
    {text : List Char} (short : ¬ List.replicate 3 '\'' <:+: text)
    (written : ∀ c ∈ text, needsEscape c = false) :
    longLiteralBody (text ++ '\'' :: '\'' :: '\'' :: rest) = some (text, rest) := by
  rcases longLiteralBody_end behind with ⟨none, one, two⟩
  induction text with
  | nil => exact none
  | cons c text inductionHypothesis =>
      rcases List.forall_mem_cons.mp written with ⟨own, others⟩
      have later := inductionHypothesis (fun run => short (List.infix_cons run)) others
      by_cases mark : c = '\''
      · subst mark
        rcases over_or_single_of_short rest short with rfl | rfl | single
        · exact one
        · exact two
        · rw [List.cons_append, longLiteralBody_apostrophe single, later, put_some]
      · rw [List.cons_append, longLiteralBody_plain mark own, later, put_some]

/-! ## Runs of marks -/

/-- One step of the search for the longest run, with the run that is going on. -/
def runStep (c : Char) (runs : Nat × Nat) (d : Char) : Nat × Nat :=
  if d = c then (max runs.1 (runs.2 + 1), runs.2 + 1) else (runs.1, 0)

theorem longestRun_eq (c : Char) (text : List Char) :
    longestRun c text = (text.foldl (runStep c) (0, 0)).1 :=
  rfl

/-- The longest run never gets shorter, and none that is going on is longer. -/
theorem le_foldl_runStep {c : Char} (text : List Char) {runs : Nat × Nat}
    (current : runs.2 ≤ runs.1) :
    runs.1 ≤ (text.foldl (runStep c) runs).1 ∧
      (text.foldl (runStep c) runs).2 ≤ (text.foldl (runStep c) runs).1 := by
  induction text generalizing runs with
  | nil => exact ⟨Nat.le_refl _, current⟩
  | cons d text inductionHypothesis =>
      have step : (runStep c runs d).2 ≤ (runStep c runs d).1 ∧ runs.1 ≤ (runStep c runs d).1 := by
        unfold runStep
        split
        · exact ⟨Nat.le_max_right _ _, Nat.le_max_left _ _⟩
        · exact ⟨Nat.zero_le _, Nat.le_refl _⟩
      rcases inductionHypothesis step.1 with ⟨longer, ongoing⟩
      exact ⟨Nat.le_trans step.2 longer, ongoing⟩

theorem add_le_foldl_replicate {c : Char} (n : Nat) {runs : Nat × Nat}
    (current : runs.2 ≤ runs.1) :
    runs.2 + n ≤ ((List.replicate n c).foldl (runStep c) runs).1 := by
  induction n generalizing runs with
  | zero => exact current
  | succ n inductionHypothesis =>
      have own : runStep c runs c = (max runs.1 (runs.2 + 1), runs.2 + 1) := if_pos rfl
      have longer := @inductionHypothesis (runStep c runs c) (by rw [own]; exact Nat.le_max_right _ _)
      rw [own] at longer
      rw [List.replicate_succ, List.foldl_cons, own]
      simp only at longer
      omega

/-- No run in a text is longer than its longest one. -/
theorem le_longestRun {c : Char} {n : Nat} {text : List Char}
    (run : List.replicate n c <:+: text) : n ≤ longestRun c text := by
  rcases run with ⟨front, behind, rfl⟩
  rw [longestRun_eq, List.foldl_append, List.foldl_append]
  have before := @le_foldl_runStep c front (0, 0) (Nat.le_refl 0)
  have within := @add_le_foldl_replicate c n _ before.2
  have grown := @le_foldl_runStep c (List.replicate n c) _ before.2
  have after := @le_foldl_runStep c behind _ grown.2
  omega

theorem notMem_of_longestRun {c : Char} {text : List Char} (none : longestRun c text = 0) :
    c ∉ text := by
  intro listed
  rcases List.append_of_mem listed with ⟨front, behind, split⟩
  have run : List.replicate 1 c <:+: text := ⟨front, behind, by simp [split]⟩
  have long := le_longestRun run
  omega

/-! ## Any form -/

/-- What follows a text is not taken for one of its marks. -/
structure NoMark (rest : List Char) : Prop where
  quote : rest.head? ≠ some '\"'
  apostrophe : rest.head? ≠ some '\''

theorem readText?_basic (text : List Char) {rest : List Char} (behind : NoMark rest) :
    readText? (shortForm '\"' (escapedBody false 0 text) ++ rest) = some (text, rest) := by
  have single : ∀ later,
      escapedBody false 0 text ++ '\"' :: rest ≠ '\"' :: '\"' :: later := by
    intro later same
    cases text with
    | nil => exact behind.quote (congrArg List.head? (List.cons.inj same).2)
    | cons c text =>
        by_cases quote : c = '\"'
        · subst quote
          exact absurd (List.cons.inj same).1 (by decide)
        · rw [escapedBody_other quote, List.append_assoc] at same
          exact head?_escaped_append false quote _ (congrArg List.head? same)
  have form : shortForm '\"' (escapedBody false 0 text) ++ rest =
      '\"' :: (escapedBody false 0 text ++ '\"' :: rest) := by
    simp [shortForm]
  rw [form, readText?, basicBody_escapedBody]
  exact single

theorem readText?_literal {text rest : List Char} (apostrophe : '\'' ∉ text)
    (printable : ∀ c ∈ text, isControl c = false) (behind : NoMark rest) :
    readText? (shortForm '\'' text ++ rest) = some (text, rest) := by
  have single : ∀ later, text ++ '\'' :: rest ≠ '\'' :: '\'' :: later := by
    intro later same
    cases text with
    | nil => exact behind.apostrophe (congrArg List.head? (List.cons.inj same).2)
    | cons c text =>
        have first := (List.cons.inj same).1
        exact apostrophe (first ▸ List.mem_cons_self)
  have form : shortForm '\'' text ++ rest = '\'' :: (text ++ '\'' :: rest) := by
    simp [shortForm]
  rw [form, readText?, literalBody_append apostrophe printable]
  exact single

/-- A body of several lines starts on a line of its own, any other one at once. -/
theorem withoutLineEnd_opened {hasLines : Bool} {body : List Char}
    (first : hasLines = false → body.head? ≠ some '\n' ∧ body.head? ≠ some '\r') :
    withoutLineEnd ((if hasLines then ['\n'] else []) ++ body) = body := by
  cases hasLines with
  | true => rfl
  | false =>
      rcases first rfl with ⟨newline, carriage⟩
      change (lineEnd? body).getD body = body
      cases body with
      | nil => rfl
      | cons c body =>
          have newline : c ≠ '\n' := fun same => newline (congrArg some same)
          have carriage : c ≠ '\r' := fun same => carriage (congrArg some same)
          simp [lineEnd?, newline, carriage]

theorem longForm_append (mark : Char) (hasLines : Bool) (body rest : List Char) :
    longForm mark hasLines body ++ rest =
      mark :: mark :: mark :: ((if hasLines then ['\n'] else []) ++
        (body ++ mark :: mark :: mark :: rest)) := by
  simp [longForm, List.replicate]

theorem head?_of_printable {c : Char} (printable : isControl c = false) (text : List Char) :
    (c :: text).head? ≠ some '\n' ∧ (c :: text).head? ≠ some '\r' := by
  rcases ne_lineEnd_of_printable printable with ⟨carriage, newline⟩
  exact ⟨fun same => newline (Option.some.inj same), fun same => carriage (Option.some.inj same)⟩

theorem head?_escapedBody_append {text : List Char} (oneLine : '\n' ∉ text) (rest : List Char) :
    (escapedBody true 0 text ++ '\"' :: rest).head? ≠ some '\n' ∧
      (escapedBody true 0 text ++ '\"' :: rest).head? ≠ some '\r' := by
  cases text with
  | nil => exact head?_of_printable rfl _
  | cons c text =>
      by_cases quote : c = '\"'
      · rw [quote, escapedBody_few (by decide)]
        exact head?_of_printable rfl _
      · rw [escapedBody_other quote]
        have written := writtenAs_escaped true c
        generalize escaped true c = form at written
        cases written with
        | letter _ => exact head?_of_printable rfl _
        | code _ => exact head?_of_printable rfl _
        | lineEnd _ newline => exact absurd (newline ▸ List.mem_cons_self) oneLine
        | plain _ printable => exact head?_of_printable printable _

theorem readText?_longBasic {hasLines : Bool} {text rest : List Char}
    (oneLine : hasLines = false → '\n' ∉ text) (behind : NoMark rest) :
    readText? (longForm '\"' hasLines (escapedBody true 0 text) ++ rest) = some (text, rest) := by
  rw [longForm_append, readText?,
    withoutLineEnd_opened (fun single => head?_escapedBody_append (oneLine single) _),
    longBasicBody_escapedBody behind.quote]

theorem readText?_longLiteral {hasLines : Bool} {text rest : List Char}
    (oneLine : hasLines = false → '\n' ∉ text) (short : ¬ List.replicate 3 '\'' <:+: text)
    (written : ∀ c ∈ text, needsEscape c = false) (behind : NoMark rest) :
    readText? (longForm '\'' hasLines text ++ rest) = some (text, rest) := by
  have first : hasLines = false → (text ++ '\'' :: '\'' :: '\'' :: rest).head? ≠ some '\n' ∧
      (text ++ '\'' :: '\'' :: '\'' :: rest).head? ≠ some '\r' := by
    intro single
    cases text with
    | nil => exact head?_of_printable rfl _
    | cons c text =>
        have newline : c ≠ '\n' := fun same => oneLine single (same ▸ List.mem_cons_self)
        have own := written c List.mem_cons_self
        refine head?_of_printable ?_ _
        simpa [needsEscape, newline] using own
  rw [longForm_append, readText?, withoutLineEnd_opened first,
    longLiteralBody_append behind.apostrophe short written]

/-- A text is read back from the form that was chosen for it. -/
theorem readText?_writtenText (text : List Char) {rest : List Char} (behind : NoMark rest) :
    readText? (writtenText text ++ rest) = some (text, rest) := by
  have plain (controls : text.any needsEscape = false) : ∀ c ∈ text, needsEscape c = false :=
    fun c listed => Bool.eq_false_iff.mpr (List.any_eq_false.mp controls c listed)
  have lines (hasLines : Bool) (same : text.contains '\n' = hasLines) :
      hasLines = false → '\n' ∉ text := by
    rintro rfl
    simpa using same
  unfold writtenText
  simp only
  split
  · exact readText?_basic text behind
  split
  · rename_i chosen
    simp only [Bool.and_eq_true, Bool.not_eq_true', beq_iff_eq] at chosen
    rcases chosen with ⟨⟨controls, none⟩, single⟩
    refine readText?_literal (notMem_of_longestRun none) ?_ behind
    intro c listed
    have newline : c ≠ '\n' := fun same => lines false single rfl (same ▸ listed)
    simpa [needsEscape, newline] using plain controls c listed
  split
  · exact readText?_longBasic (lines _ rfl) behind
  split
  · rename_i chosen
    simp only [Bool.and_eq_true, Bool.not_eq_true', decide_eq_true_eq] at chosen
    rcases chosen with ⟨controls, few⟩
    refine readText?_longLiteral (lines _ rfl) ?_ (plain controls) behind
    intro run
    have long := le_longestRun run
    omega
  split
  · exact readText?_longBasic (fun short => absurd short.symm Bool.false_ne_true) behind
  · exact readText?_basic text behind

/-- Every form starts with a mark. -/
theorem exists_writtenText_eq_cons (text : List Char) :
    ∃ mark body, writtenText text = mark :: body ∧ (mark = '\"' ∨ mark = '\'') := by
  unfold writtenText
  simp only
  split
  · exact ⟨_, _, rfl, Or.inl rfl⟩
  split
  · exact ⟨_, _, rfl, Or.inr rfl⟩
  split
  · exact ⟨_, _, rfl, Or.inl rfl⟩
  split
  · exact ⟨_, _, rfl, Or.inr rfl⟩
  split
  · exact ⟨_, _, rfl, Or.inl rfl⟩
  · exact ⟨_, _, rfl, Or.inl rfl⟩

/-! ## Keys -/

theorem ne_mark_of_isBare {c : Char} (bare : isBare c = true) : c ≠ '\"' ∧ c ≠ '\'' := by
  constructor <;> rintro rfl <;> revert bare <;> decide

theorem readKeyPart?_bare {key rest : List Char} (some : key ≠ [])
    (bare : ∀ c ∈ key, isBare c = true) (behind : rest.head?.any isBare = false) :
    readKeyPart? (key ++ rest) = .some (String.ofList key, rest) := by
  have whole : (key ++ rest).span isBare = (key, rest) :=
    Text.span_eq_iff.mpr ⟨bare, rfl, behind⟩
  match key, some with
  | c :: key, _ =>
      have marks := ne_mark_of_isBare (bare c List.mem_cons_self)
      unfold readKeyPart?
      split
      · rename_i same
        exact absurd (List.cons.inj same).1 marks.1
      · rename_i same
        exact absurd (List.cons.inj same).1 marks.2
      · rw [whole]

theorem readKeyPart?_basic (key rest : List Char) :
    readKeyPart? (shortForm '\"' (escapedBody false 0 key) ++ rest) =
      some (String.ofList key, rest) := by
  have form : shortForm '\"' (escapedBody false 0 key) ++ rest =
      '\"' :: (escapedBody false 0 key ++ '\"' :: rest) := by
    simp [shortForm]
  rw [form, readKeyPart?, basicBody_escapedBody, Option.map_some]

theorem readKeyPart?_literal {key : List Char} (apostrophe : '\'' ∉ key)
    (printable : ∀ c ∈ key, isControl c = false) (rest : List Char) :
    readKeyPart? (shortForm '\'' key ++ rest) = some (String.ofList key, rest) := by
  have form : shortForm '\'' key ++ rest = '\'' :: (key ++ '\'' :: rest) := by
    simp [shortForm]
  rw [form, readKeyPart?, literalBody_append apostrophe printable, Option.map_some]

/-- A key is read back up to the first character that cannot go on with it. -/
theorem readKeyPart?_writtenKey (key : List Char) {rest : List Char}
    (behind : rest.head?.any isBare = false) :
    readKeyPart? (writtenKey key ++ rest) = some (String.ofList key, rest) := by
  unfold writtenKey
  simp only
  split
  · rename_i chosen
    simp only [Bool.and_eq_true, Bool.not_eq_true', List.all_eq_true] at chosen
    exact readKeyPart?_bare (by simpa using chosen.1) chosen.2 behind
  split
  · exact readKeyPart?_basic key rest
  split
  · rename_i chosen
    simp only [Bool.and_eq_true, Bool.not_eq_true'] at chosen
    refine readKeyPart?_literal (by simpa using chosen.2) ?_ rest
    exact fun c listed => Bool.eq_false_iff.mpr (List.any_eq_false.mp chosen.1 c listed)
  · exact readKeyPart?_basic key rest

/-- A key starts with a mark or a character that needs none. -/
theorem exists_writtenKey_eq_cons (key : List Char) :
    ∃ c rest, writtenKey key = c :: rest ∧ (isBare c = true ∨ c = '\"' ∨ c = '\'') := by
  unfold writtenKey
  simp only
  split
  · rename_i chosen
    simp only [Bool.and_eq_true, Bool.not_eq_true', List.all_eq_true] at chosen
    match key, chosen with
    | c :: key, chosen => exact ⟨c, key, rfl, Or.inl (chosen.2 c List.mem_cons_self)⟩
  split
  · exact ⟨_, _, rfl, Or.inr (Or.inl rfl)⟩
  split
  · exact ⟨_, _, rfl, Or.inr (Or.inr rfl)⟩
  · exact ⟨_, _, rfl, Or.inr (Or.inl rfl)⟩

end Toml
end HostLink
