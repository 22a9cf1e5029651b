import HostLink.Text.Pieces

namespace HostLink
namespace Glob

/-!
Patterns for names.  `?` stands for one character, `*` for any characters, `[abc]` and
`[a-z]` for one character of a class, `[!abc]` for one outside it, and every other character
for itself.  `**` is allowed as a whole path component only and stands for any depth.

A text is refused if it does not read as a pattern, with the place of the fault counted in
characters from zero.  Main statement: `fits_iff`, which ties the test used when directories
are searched to the relation `Fits`.
-/

/-- A part of a character class. -/
inductive ClassPart where
  | single (c : Char)
  | range (first last : Char)
  deriving DecidableEq

/-- What a piece of a pattern stands for. -/
inductive Token where
  | exactly (c : Char)
  | anyCharacter
  | anySequence
  | anyDepth
  | oneOf (parts : List ClassPart)
  | noneOf (parts : List ClassPart)
  deriving DecidableEq

/-- What is wrong with a text that does not read as a pattern. -/
inductive FaultKind where
  | tooManyStars
  | depthInsideComponent
  | openClass
  deriving DecidableEq

structure Fault where
  position : Nat
  kind : FaultKind
  deriving DecidableEq

namespace Fault

def reason : FaultKind → String
  | .tooManyStars => "wildcards are either regular `*` or recursive `**`"
  | .depthInsideComponent => "recursive wildcards must form a single path component"
  | .openClass => "invalid range pattern"

def message (f : Fault) : String :=
  "Pattern syntax error near position " ++ toString f.position ++ ": " ++ reason f.kind

end Fault

/-- The parts of a character class: `a-z` is a range, also where its ends are the wrong way
round, and then holds no character. -/
def classParts : List Char → List ClassPart
  | first :: '-' :: last :: rest => .range first last :: classParts rest
  | c :: rest => .single c :: classParts rest
  | [] => []

/-- What follows the opening bracket of a class: whether it is negated, what it holds and the
text behind it.  The first character belongs to the class even if it is a bracket. -/
def readClass (text : List Char) : Option (Bool × List Char × List Char) :=
  let (negated, body) :=
    match text with
    | '!' :: rest => (true, rest)
    | _ => (false, text)
  match body with
  | [] => none
  | first :: others =>
      (Text.cutAt ']' others).map (fun parts => (negated, first :: parts.1, parts.2))

theorem readClass_shorter {text held rest : List Char} {negated : Bool}
    (h : readClass text = some (negated, held, rest)) : rest.length < text.length := by
  have cut : ∀ (first : Char) (others : List Char) (neg : Bool),
      (Text.cutAt ']' others).map (fun parts => (neg, first :: parts.1, parts.2)) =
        some (negated, held, rest) → rest.length < (first :: others).length := by
    intro first others neg hcut
    obtain ⟨⟨inside, behind⟩, hparts, heq⟩ := Option.map_eq_some_iff.mp hcut
    cases heq
    rw [(Text.eq_of_cutAt hparts).1]
    simp
    omega
  simp only [readClass] at h
  split at h
  · rename_i rest' hbody
    split at hbody
    · cases hbody
      simp at h
    · cases hbody
      simp at h
  · rename_i first others hbody
    split at hbody
    · cases hbody
      have := cut first others _ h
      simp at this ⊢
      omega
    · cases hbody
      exact cut first others _ h

/-- Reads the tokens of a pattern from a position on; `previous` is the character before. -/
def tokensFrom (position : Nat) (previous : Option Char) (text : List Char) :
    Except Fault (List Token) :=
  match htext : text with
  | [] => .ok []
  | '?' :: rest => do
      return .anyCharacter :: (← tokensFrom (position + 1) (some '?') rest)
  | '*' :: '*' :: '*' :: _ => .error ⟨position + 2, .tooManyStars⟩
  | ['*', '*'] =>
      if position = 0 ∨ previous = some '/' then .ok [.anyDepth]
      else .error ⟨position - 1, .depthInsideComponent⟩
  | '*' :: '*' :: c :: rest =>
      if position = 0 ∨ previous = some '/' then
        if c = '/' then do
          return .anyDepth :: (← tokensFrom (position + 3) (some '/') rest)
        else .error ⟨position + 2, .depthInsideComponent⟩
      else .error ⟨position - 1, .depthInsideComponent⟩
  | '*' :: rest => do
      return .anySequence :: (← tokensFrom (position + 1) (some '*') rest)
  | '[' :: inner =>
      match hclass : readClass inner with
      | none => .error ⟨position, .openClass⟩
      | some (negated, held, rest) => do
          have hshorter := readClass_shorter hclass
          let parts := classParts held
          let token := if negated then Token.noneOf parts else Token.oneOf parts
          let behind := position + (inner.length - rest.length) + 1
          return token :: (← tokensFrom behind (some ']') rest)
  | c :: rest => do
      return .exactly c :: (← tokensFrom (position + 1) (some c) rest)
termination_by text.length
decreasing_by
  all_goals
    subst htext
    simp only [List.length_cons]
    omega

/-- The tokens of a pattern. -/
def tokens (pattern : String) : Except Fault (List Token) :=
  tokensFrom 0 none pattern.toList

/-- Whether a character belongs to a class. -/
def inClass (parts : List ClassPart) (c : Char) : Bool :=
  parts.any (fun part =>
    match part with
    | .single d => c == d
    | .range first last => first.toNat ≤ c.toNat && c.toNat ≤ last.toNat)

/-- Whether a test holds of some ending of a text, the whole and the empty one included. -/
def someEnding (test : List Char → Bool) : List Char → Bool
  | [] => test []
  | c :: rest => test (c :: rest) || someEnding test rest

/-- Whether a name fits a pattern. -/
def fits : List Token → List Char → Bool
  | [], name => name.isEmpty
  | .anySequence :: tokens, name => someEnding (fits tokens) name
  | .anyDepth :: tokens, name => someEnding (fits tokens) name
  | .exactly d :: tokens, c :: name => c == d && fits tokens name
  | .anyCharacter :: tokens, _ :: name => fits tokens name
  | .oneOf parts :: tokens, c :: name => inClass parts c && fits tokens name
  | .noneOf parts :: tokens, c :: name => !inClass parts c && fits tokens name
  | _ :: _, [] => false

/-- A name fits a pattern if it falls into stretches, one for each token. -/
inductive Fits : List Token → List Char → Prop where
  | nil : Fits [] []
  | exactly {c : Char} {tokens : List Token} {name : List Char} :
      Fits tokens name → Fits (.exactly c :: tokens) (c :: name)
  | anyCharacter {c : Char} {tokens : List Token} {name : List Char} :
      Fits tokens name → Fits (.anyCharacter :: tokens) (c :: name)
  | oneOf {parts : List ClassPart} {c : Char} {tokens : List Token} {name : List Char} :
      inClass parts c = true → Fits tokens name → Fits (.oneOf parts :: tokens) (c :: name)
  | noneOf {parts : List ClassPart} {c : Char} {tokens : List Token} {name : List Char} :
      inClass parts c = false → Fits tokens name → Fits (.noneOf parts :: tokens) (c :: name)
  | anySequence {stretch : List Char} {tokens : List Token} {name : List Char} :
      Fits tokens name → Fits (.anySequence :: tokens) (stretch ++ name)
  | anyDepth {stretch : List Char} {tokens : List Token} {name : List Char} :
      Fits tokens name → Fits (.anyDepth :: tokens) (stretch ++ name)

theorem someEnding_iff {test : List Char → Bool} {text : List Char} :
    someEnding test text = true ↔ ∃ front ending, text = front ++ ending ∧ test ending = true := by
  induction text with
  | nil =>
      constructor
      · intro h
        exact ⟨[], [], rfl, h⟩
      · rintro ⟨front, ending, heq, h⟩
        have hending : ending = [] := (List.append_eq_nil_iff.mp heq.symm).2
        rw [hending] at h
        exact h
  | cons c rest ih =>
      simp only [someEnding, Bool.or_eq_true, ih]
      constructor
      · rintro (h | ⟨front, ending, heq, h⟩)
        · exact ⟨[], c :: rest, rfl, h⟩
        · exact ⟨c :: front, ending, by simp [heq], h⟩
      · rintro ⟨front, ending, heq, h⟩
        cases front with
        | nil =>
            left
            simp only [List.nil_append] at heq
            rw [heq]
            exact h
        | cons d front =>
            right
            simp only [List.cons_append, List.cons.injEq] at heq
            exact ⟨front, ending, heq.2, h⟩

/-- The test decides the relation. -/
theorem fits_iff {tokens : List Token} {name : List Char} :
    fits tokens name = true ↔ Fits tokens name := by
  induction tokens generalizing name with
  | nil =>
      cases name with
      | nil => simp [fits, Fits.nil]
      | cons c name =>
          simp only [fits, List.isEmpty_cons, Bool.false_eq_true, false_iff]
          intro h
          cases h
  | cons token tokens ih =>
      cases token with
      | anySequence =>
          simp only [fits, someEnding_iff, ih]
          constructor
          · rintro ⟨front, ending, rfl, h⟩
            exact Fits.anySequence h
          · intro h
            cases h with
            | anySequence h => exact ⟨_, _, rfl, h⟩
      | anyDepth =>
          simp only [fits, someEnding_iff, ih]
          constructor
          · rintro ⟨front, ending, rfl, h⟩
            exact Fits.anyDepth h
          · intro h
            cases h with
            | anyDepth h => exact ⟨_, _, rfl, h⟩
      | exactly d =>
          cases name with
          | nil =>
              simp only [fits, Bool.false_eq_true, false_iff]
              intro h
              cases h
          | cons c name =>
              simp only [fits, Bool.and_eq_true, beq_iff_eq, ih]
              constructor
              · rintro ⟨rfl, h⟩
                exact Fits.exactly h
              · intro h
                cases h with
                | exactly h => exact ⟨rfl, h⟩
      | anyCharacter =>
          cases name with
          | nil =>
              simp only [fits, Bool.false_eq_true, false_iff]
              intro h
              cases h
          | cons c name =>
              simp only [fits, ih]
              constructor
              · exact Fits.anyCharacter
              · intro h
                cases h with
                | anyCharacter h => exact h
      | oneOf parts =>
          cases name with
          | nil =>
              simp only [fits, Bool.false_eq_true, false_iff]
              intro h
              cases h
          | cons c name =>
              simp only [fits, Bool.and_eq_true, ih]
              constructor
              · rintro ⟨hc, h⟩
                exact Fits.oneOf hc h
              · intro h
                cases h with
                | oneOf hc h => exact ⟨hc, h⟩
      | noneOf parts =>
          cases name with
          | nil =>
              simp only [fits, Bool.false_eq_true, false_iff]
              intro h
              cases h
          | cons c name =>
              simp only [fits, Bool.and_eq_true, Bool.not_eq_true', ih]
              constructor
              · rintro ⟨hc, h⟩
                exact Fits.noneOf hc h
              · intro h
                cases h with
                | noneOf hc h => exact ⟨hc, h⟩

/-- The pattern that a text and nothing else fits: a class around each special character. -/
def escaped (text : String) : String :=
  String.ofList
    (text.toList.flatMap (fun c =>
      if c = '?' ∨ c = '*' ∨ c = '[' ∨ c = ']' then ['[', c, ']'] else [c]))

end Glob
end HostLink
