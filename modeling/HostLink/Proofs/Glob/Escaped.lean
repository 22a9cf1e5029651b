import HostLink.Proofs.Glob.Literal

namespace HostLink

/-!
# Escaped text in patterns

Escaping puts a class around every special character, and a class of one character stands for
that character.  So escaped text fits itself and nothing else, wherever it stands in a pattern,
and its slashes stay where they were.
-/

namespace Glob

/-! ## Tokens of escaped text -/

/-- The characters around which escaping puts a class. -/
def isEscaped (c : Char) : Bool :=
  c == '?' || c == '*' || c == '[' || c == ']'

/-- What stands for a character in escaped text. -/
def escapedToken (c : Char) : Token :=
  if isEscaped c then .oneOf [.single c] else .exactly c

/-- Escaped text, character by character. -/
def escapedChars (text : List Char) : List Char :=
  text.flatMap (fun c => if isEscaped c then ['[', c, ']'] else [c])

theorem escapedChars_cons (c : Char) (rest : List Char) :
    escapedChars (c :: rest) =
      (if isEscaped c then ['[', c, ']'] else [c]) ++ escapedChars rest := rfl

theorem escaped_eq (text : String) : escaped text = String.ofList (escapedChars text.toList) := by
  unfold escaped escapedChars isEscaped
  simp only [Bool.or_eq_true, beq_iff_eq, or_assoc]

theorem toList_escaped (text : String) : (escaped text).toList = escapedChars text.toList := by
  rw [escaped_eq, String.toList_ofList]

theorem readClass_single {c : Char} (special : isEscaped c = true) (rest : List Char) :
    readClass (c :: ']' :: rest) = some (false, [c], rest) := by
  unfold readClass
  split
  rename_i negated body same
  split at same
  · rename_i first
    cases first
    cases special
  · cases same
    rfl

/-- Escaped text is read as one token for each of its characters, wherever it stands. -/
theorem tokensFrom_escaped (text rest : List Char) (position : Nat) (previous : Option Char) :
    ∃ position' previous', tokensFrom position previous (escapedChars text ++ rest) =
      (tokensFrom position' previous' rest).map (text.map escapedToken ++ ·) := by
  induction text generalizing position previous with
  | nil =>
      refine ⟨position, previous, ?_⟩
      change tokensFrom position previous rest = _
      cases tokensFrom position previous rest with
      | error fault => rfl
      | ok tokens => rfl
  | cons c text inductionHypothesis =>
      cases special : isEscaped c with
      | true =>
          have front : escapedChars (c :: text) ++ rest =
              '[' :: c :: ']' :: (escapedChars text ++ rest) := by
            simp [escapedChars, special]
          have class_ := readClass_single special (escapedChars text ++ rest)
          rcases inductionHypothesis (position + ((c :: ']' :: (escapedChars text ++ rest)).length -
            (escapedChars text ++ rest).length) + 1) (some ']') with ⟨position', previous', read⟩
          refine ⟨position', previous', ?_⟩
          rw [front, tokensFrom]
          split
          · rename_i unread
            rw [class_] at unread
            cases unread
          · rename_i found
            rw [class_] at found
            cases found
            dsimp only
            rw [read]
            simp only [escapedToken, special, List.map_cons]
            cases tokensFrom position' previous' rest with
            | error fault => rfl
            | ok tokens => rfl
      | false =>
          have plain : isSpecial c = false := by
            simp only [isEscaped, Bool.or_eq_false_iff] at special
            simp only [isSpecial, Bool.or_eq_false_iff]
            exact special.1
          have front : escapedChars (c :: text) ++ rest = c :: (escapedChars text ++ rest) := by
            simp [escapedChars, special]
          rcases inductionHypothesis (position + 1) (some c) with ⟨position', previous', read⟩
          refine ⟨position', previous', ?_⟩
          rw [front, tokensFrom_cons_of_plain plain, read]
          simp only [escapedToken, special, List.map_cons]
          cases tokensFrom position' previous' rest with
          | error fault => rfl
          | ok tokens => rfl

theorem tokens_escaped (name : String) :
    tokens (escaped name) = .ok (name.toList.map escapedToken) := by
  rcases tokensFrom_escaped name.toList [] 0 none with ⟨position, previous, read⟩
  rw [List.append_nil] at read
  unfold tokens
  rw [toList_escaped, read, tokensFrom]
  simp [Except.map]

/-- Behind an escaped text a pattern fits what begins with the text. -/
theorem fits_append_iff {text name : List Char} {tokens : List Token} :
    fits (text.map escapedToken ++ tokens) name = true ↔
      ∃ rest, name = text ++ rest ∧ fits tokens rest = true := by
  induction text generalizing name with
  | nil => simp
  | cons d text inductionHypothesis =>
      cases special : isEscaped d with
      | true =>
          cases name with
          | nil => simp [escapedToken, special, fits]
          | cons c name =>
              simp [escapedToken, special, fits, inClass, inductionHypothesis, and_assoc]
      | false =>
          cases name with
          | nil => simp [escapedToken, special, fits]
          | cons c name => simp [escapedToken, special, fits, inductionHypothesis, and_assoc]

/-- An escaped text fits itself and nothing else. -/
theorem fits_escapedToken_iff {text name : List Char} :
    fits (text.map escapedToken) name = true ↔ name = text := by
  have whole := @fits_append_iff text name []
  rw [List.append_nil] at whole
  rw [whole]
  simp [fits]

/-! ## Components that fit one name -/

/-- The component for one name. -/
def only (name : String) : Component :=
  Component.ofTokens (name.toList.map escapedToken)

theorem anyDepth_notMem_escaped (text : List Char) :
    Token.anyDepth ∉ text.map escapedToken := by
  intro listed
  rcases List.mem_map.mp listed with ⟨c, _, same⟩
  unfold escapedToken at same
  split at same <;> cases same

theorem plainText?_eq_none {text : List Char} {c : Char} (inside : c ∈ text)
    (special : isEscaped c = true) : Component.plainText? (text.map escapedToken) = none := by
  induction text with
  | nil => cases inside
  | cons d text inductionHypothesis =>
      cases own : isEscaped d with
      | true => simp [escapedToken, own, Component.plainText?]
      | false =>
          have later : c ∈ text := by
            rcases List.mem_cons.mp inside with rfl | later
            · rw [own] at special
              cases special
            · exact later
          simp [escapedToken, own, Component.plainText?, inductionHypothesis later]

/-- A name is taken as it stands if nothing in it had to be escaped, and is looked for among
the names of a directory otherwise. -/
theorem only_eq (name : String) :
    only name = .plain name ∨
      (only name = .wild (name.toList.map escapedToken) ∧
        ∃ c ∈ name.toList, isEscaped c = true) := by
  have noDepth : (name.toList.map escapedToken).contains .anyDepth = false := by
    rw [Bool.eq_false_iff, Ne, List.contains_iff_mem]
    exact anyDepth_notMem_escaped name.toList
  unfold only Component.ofTokens
  rw [noDepth, if_neg Bool.false_ne_true]
  by_cases special : ∃ c ∈ name.toList, isEscaped c = true
  · rcases special with ⟨c, inside, special⟩
    rw [plainText?_eq_none inside special]
    exact Or.inr ⟨rfl, c, inside, special⟩
  · have plain : name.toList.map escapedToken = name.toList.map Token.exactly := by
      apply List.map_congr_left
      intro c inside
      have own : isEscaped c = false :=
        Bool.eq_false_iff.mpr (fun escaped => special ⟨c, inside, escaped⟩)
      simp only [escapedToken, own, Bool.false_eq_true, if_false]
    rw [plain, plainText?_map]
    exact Or.inl (congrArg Component.plain String.ofList_toList)

/-- The special names have nothing in them to escape. -/
theorem specialNames_escaped {text : List Char} {c : Char} (inside : c ∈ text)
    (special : isEscaped c = true) : specialNames (text.map escapedToken) = [] := by
  unfold specialNames
  split
  · rw [List.filter_eq_nil_iff]
    intro name listed fitting
    rw [fits_escapedToken_iff] at fitting
    subst fitting
    simp only [List.mem_cons, List.not_mem_nil, or_false] at listed
    rcases listed with rfl | rfl
    · simp at inside
      rw [inside] at special
      cases special
    · simp at inside
      rw [inside] at special
      cases special
  · rfl

/-! ## Components behind a stem -/

theorem escaped_append (text other : String) :
    escaped (text ++ other) = escaped text ++ escaped other := by
  apply String.toList_injective
  simp only [String.toList_append, toList_escaped, escapedChars, List.flatMap_append]

theorem escaped_eq_empty_iff {text : String} : escaped text = "" ↔ text = "" := by
  rw [← String.toList_eq_nil_iff, ← String.toList_eq_nil_iff, toList_escaped]
  cases text.toList with
  | nil => exact iff_of_true rfl rfl
  | cons c rest =>
      apply iff_of_false ?_ (List.cons_ne_nil c rest)
      simp only [escapedChars, List.flatMap_cons, List.append_eq_nil_iff, not_and]
      intro vacant
      split at vacant <;> cases vacant

/-- Escaping does not touch what is between the slashes. -/
theorem pieces_escaped (text : String) :
    Text.pieces '/' (escaped text) = (Text.pieces '/' text).map escaped := by
  have cut : ∀ characters : List Char, Text.piecesOf '/' (escapedChars characters) =
      (Text.piecesOf '/' characters).map escapedChars := by
    intro characters
    induction characters with
    | nil => rfl
    | cons c rest inductionHypothesis =>
        rw [escapedChars_cons, Text.piecesOf]
        by_cases slash : c = '/'
        · subst slash
          rw [if_pos rfl, List.map_cons, ← inductionHypothesis]
          rfl
        · rw [if_neg slash]
          cases found : Text.piecesOf '/' rest with
          | nil => exact absurd found (Text.piecesOf_ne_nil '/' rest)
          | cons first others =>
              rw [found] at inductionHypothesis
              cases special : isEscaped c with
              | true =>
                  simp [Text.piecesOf, slash, inductionHypothesis, escapedChars_cons, special]
              | false =>
                  simp [Text.piecesOf, slash, inductionHypothesis, escapedChars_cons, special]
  unfold Text.pieces
  rw [toList_escaped, cut, List.map_map, List.map_map]
  apply List.map_congr_left
  intro piece _
  simp only [Function.comp_apply, escaped_eq, String.toList_ofList]

/-- The tokens of a name that begins with a stem and has an ending. -/
def stemmed (stem ending : String) : List Token :=
  stem.toList.map escapedToken ++ wildcard ending

theorem fits_stemmed_iff {stem ending name : String} :
    fits (stemmed stem ending) name.toList = true ↔
      ∃ suffix, name = stem ++ suffix ++ ending := by
  unfold stemmed
  rw [fits_append_iff]
  constructor
  · rintro ⟨rest, whole, fitting⟩
    have own : rest = (String.ofList rest).toList := String.toList_ofList.symm
    rw [own, fits_wildcard_iff] at fitting
    rcases Text.endsWith_iff.mp fitting with ⟨suffix, ends⟩
    refine ⟨suffix, String.toList_injective ?_⟩
    rw [String.append_assoc, ← ends, String.toList_append, String.toList_ofList, whole]
  · rintro ⟨suffix, rfl⟩
    refine ⟨(suffix ++ ending).toList, by simp only [String.toList_append, List.append_assoc], ?_⟩
    exact fits_wildcard_iff.mpr (Text.endsWith_iff.mpr ⟨suffix, rfl⟩)

theorem ofTokens_stemmed (stem ending : String) :
    Component.ofTokens (stemmed stem ending) = .wild (stemmed stem ending) := by
  have noDepth : (stemmed stem ending).contains .anyDepth = false := by
    rw [Bool.eq_false_iff, Ne, List.contains_iff_mem]
    intro listed
    rcases List.mem_append.mp listed with front | behind
    · exact anyDepth_notMem_escaped _ front
    · rcases List.mem_cons.mp behind with impossible | later
      · cases impossible
      · exact anyDepth_notMem_map _ later
  have unplain : ∀ text : List Char,
      Component.plainText? (text.map escapedToken ++ wildcard ending) = none := by
    intro text
    induction text with
    | nil => rfl
    | cons c text inductionHypothesis =>
        rw [List.map_cons, List.cons_append]
        cases special : isEscaped c with
        | true => simp [escapedToken, special, Component.plainText?]
        | false =>
            simp [escapedToken, special, Component.plainText?, inductionHypothesis]
  unfold Component.ofTokens
  rw [noDepth, if_neg Bool.false_ne_true]
  unfold stemmed
  rw [unplain]

theorem notMem_escaped {text : String} (single : '/' ∉ text.toList) :
    '/' ∉ (escaped text).toList := by
  rw [toList_escaped]
  intro inside
  rcases List.mem_flatMap.mp inside with ⟨c, own, made⟩
  split at made
  · simp only [List.mem_cons, List.not_mem_nil, or_false] at made
    rcases made with impossible | same | impossible
    · cases impossible
    · exact single (same ▸ own)
    · cases impossible
  · exact single (List.mem_singleton.mp made ▸ own)

theorem tokens_stemmed (front : String) {ending : String} (closing : IsEnding ending) :
    tokens (escaped front ++ ("*" ++ ending)) = .ok (stemmed front ending) := by
  rcases tokensFrom_escaped front.toList ('*' :: ending.toList) 0 none with
    ⟨position, previous, read⟩
  rw [tokensFrom_star closing.plain] at read
  unfold tokens
  rw [String.toList_append, toList_escaped, String.toList_append]
  exact read

end Glob
end HostLink
