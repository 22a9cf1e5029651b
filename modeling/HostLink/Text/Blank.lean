namespace HostLink
namespace Text

/-!
Blank characters, and the words of a text between them.  A character is blank if Unicode
gives it the property `White_Space`.
-/

/-- The property `White_Space`. -/
def isBlank (c : Char) : Bool :=
  (9 ≤ c.toNat && c.toNat ≤ 13) || c.toNat == 0x20 || c.toNat == 0x85 || c.toNat == 0xA0 ||
    c.toNat == 0x1680 || (0x2000 ≤ c.toNat && c.toNat ≤ 0x200A) || c.toNat == 0x2028 ||
    c.toNat == 0x2029 || c.toNat == 0x202F || c.toNat == 0x205F || c.toNat == 0x3000

theorem isBlank_of_isWhitespace {c : Char} (h : c.isWhitespace = true) : isBlank c = true := by
  simp only [Char.isWhitespace, Bool.or_eq_true, decide_eq_true_eq] at h
  rcases h with ((h | h) | h) | h <;> subst h <;> decide

/-- The text without the blanks at its two ends. -/
def trimmed (text : String) : String :=
  String.ofList
    ((text.toList.dropWhile isBlank).reverse.dropWhile isBlank).reverse

/-- Whether there is nothing but blanks. -/
def isAllBlank (text : String) : Bool :=
  text.toList.all isBlank

/-- The words of a text whose first word has begun already; what there is of it is given from
its last character to its first. -/
def wordsOf (current : List Char) : List Char → List (List Char)
  | [] => if current.isEmpty then [] else [current.reverse]
  | c :: rest =>
      if isBlank c then
        if current.isEmpty then wordsOf [] rest else current.reverse :: wordsOf [] rest
      else wordsOf (c :: current) rest

/-- The words of a text: its longest stretches without a blank. -/
def words (text : String) : List String :=
  (wordsOf [] text.toList).map String.ofList

/-- No word is empty, and none holds a blank. -/
theorem ne_nil_and_no_blank_of_mem_wordsOf {current text word : List Char}
    (hcurrent : ∀ c ∈ current, isBlank c = false) (h : word ∈ wordsOf current text) :
    word ≠ [] ∧ ∀ c ∈ word, isBlank c = false := by
  induction text generalizing current with
  | nil =>
      simp only [wordsOf] at h
      split at h
      · simp at h
      · rename_i hne
        simp only [List.mem_singleton] at h
        subst h
        simp only [List.isEmpty_iff] at hne
        exact ⟨by simpa using hne, by simpa using hcurrent⟩
  | cons c rest ih =>
      simp only [wordsOf] at h
      split at h
      · split at h
        · exact ih (by simp) h
        · rename_i hne
          rcases List.mem_cons.mp h with rfl | h
          · simp only [List.isEmpty_iff] at hne
            exact ⟨by simpa using hne, by simpa using hcurrent⟩
          · exact ih (by simp) h
      · rename_i hc
        refine ih ?_ h
        intro d hd
        rcases List.mem_cons.mp hd with rfl | hd
        · simpa using hc
        · exact hcurrent d hd

/-- The first word, if the text has one. -/
def firstWord? (text : String) : Option String :=
  (words text).head?

end Text
end HostLink
