namespace HostLink
namespace Text

/-!
Cutting text at separators.  Everything here works on the characters of a text from the
left, and each way of cutting comes with the law that says how the pieces make up the text
again.
-/

/-- The pieces between the separators: one more than there are separators. -/
def piecesOf (separator : Char) : List Char → List (List Char)
  | [] => [[]]
  | c :: rest =>
      if c = separator then [] :: piecesOf separator rest
      else
        match piecesOf separator rest with
        | [] => [[c]]
        | piece :: pieces => (c :: piece) :: pieces

theorem piecesOf_ne_nil (separator : Char) (text : List Char) :
    piecesOf separator text ≠ [] := by
  cases text with
  | nil => simp [piecesOf]
  | cons c rest =>
      simp only [piecesOf]
      split
      · simp
      · split <;> simp

/-- Joining the pieces with the separator gives the text back. -/
theorem intercalate_piecesOf (separator : Char) (text : List Char) :
    [separator].intercalate (piecesOf separator text) = text := by
  induction text with
  | nil => rfl
  | cons c rest ih =>
      simp only [piecesOf]
      split
      · rename_i hc
        subst hc
        cases hp : piecesOf c rest with
        | nil => exact absurd hp (piecesOf_ne_nil c rest)
        | cons piece pieces =>
            rw [hp] at ih
            simpa [List.intercalate] using ih
      · cases hp : piecesOf separator rest with
        | nil => exact absurd hp (piecesOf_ne_nil separator rest)
        | cons piece pieces =>
            rw [hp] at ih
            cases pieces with
            | nil => simpa [List.intercalate] using ih
            | cons next pieces => simpa [List.intercalate] using ih

/-- No piece holds the separator. -/
theorem separator_notMem_piecesOf {separator : Char} {text piece : List Char}
    (h : piece ∈ piecesOf separator text) : separator ∉ piece := by
  induction text generalizing piece with
  | nil =>
      simp only [piecesOf, List.mem_singleton] at h
      simp [h]
  | cons c rest ih =>
      simp only [piecesOf] at h
      split at h
      · rcases List.mem_cons.mp h with rfl | h
        · simp
        · exact ih h
      · rename_i hc
        split at h
        · simp only [List.mem_singleton] at h
          subst h
          simp [Ne.symm hc]
        · rename_i first others hp
          rcases List.mem_cons.mp h with rfl | h
          · have hfirst : separator ∉ first := ih (by simp [hp])
            simp [Ne.symm hc, hfirst]
          · exact ih (by simp [hp, h])

/-- The pieces of a text between its separators. -/
def pieces (separator : Char) (text : String) : List String :=
  (piecesOf separator text.toList).map String.ofList

/-- The characters before and after the first separator. -/
def cutAt (separator : Char) : List Char → Option (List Char × List Char)
  | [] => none
  | c :: rest =>
      if c = separator then some ([], rest)
      else (cutAt separator rest).map (fun parts => (c :: parts.1, parts.2))

theorem eq_of_cutAt {separator : Char} {text before after : List Char}
    (h : cutAt separator text = some (before, after)) :
    text = before ++ separator :: after ∧ separator ∉ before := by
  induction text generalizing before with
  | nil => simp [cutAt] at h
  | cons c rest ih =>
      simp only [cutAt] at h
      split at h
      · rename_i hc
        cases h
        simp [hc]
      · rename_i hc
        obtain ⟨⟨front, behind⟩, hparts, heq⟩ := Option.map_eq_some_iff.mp h
        cases heq
        obtain ⟨hrest, hnot⟩ := ih hparts
        refine ⟨by rw [hrest]; rfl, ?_⟩
        simp [Ne.symm hc, hnot]

theorem cutAt_eq_none_iff {separator : Char} {text : List Char} :
    cutAt separator text = none ↔ separator ∉ text := by
  induction text with
  | nil => simp [cutAt]
  | cons c rest ih =>
      simp only [cutAt]
      split
      · rename_i hc
        simp [hc]
      · rename_i hc
        simp [ih, Ne.symm hc]

/-- What stands before and after the first separator, if there is one. -/
def cut? (separator : Char) (text : String) : Option (String × String) :=
  (cutAt separator text.toList).map
    (fun parts => (String.ofList parts.1, String.ofList parts.2))

/-- What stands before and after the last separator, if there is one. -/
def cutLast? (separator : Char) (text : String) : Option (String × String) :=
  (cutAt separator text.toList.reverse).map
    (fun parts => (String.ofList parts.2.reverse, String.ofList parts.1.reverse))

/-- What follows a given beginning. -/
def afterStart? : List Char → List Char → Option (List Char)
  | [], text => some text
  | _ :: _, [] => none
  | s :: start, c :: text => if s = c then afterStart? start text else none

theorem afterStart?_eq_some_iff {start text rest : List Char} :
    afterStart? start text = some rest ↔ text = start ++ rest := by
  induction start generalizing text with
  | nil => simp [afterStart?, eq_comm]
  | cons s start ih =>
      cases text with
      | nil => simp [afterStart?]
      | cons c text =>
          simp only [afterStart?]
          split
          · rename_i hsc
            subst hsc
            simp [ih]
          · rename_i hsc
            simp [Ne.symm hsc]

/-- What follows a given beginning, if the text begins so. -/
def after? (start text : String) : Option String :=
  (afterStart? start.toList text.toList).map String.ofList

/-- Whether the text begins with the given one. -/
def startsWith (start text : String) : Bool :=
  start.toList.isPrefixOf text.toList

/-- Whether the text ends with the given one. -/
def endsWith (ending text : String) : Bool :=
  ending.toList.isSuffixOf text.toList

/-- Whether the characters occur together, in order, somewhere in the text. -/
def occursIn (needle : List Char) : List Char → Bool
  | [] => needle.isEmpty
  | c :: rest => needle.isPrefixOf (c :: rest) || occursIn needle rest

theorem occursIn_iff {needle text : List Char} :
    occursIn needle text = true ↔ needle <:+: text := by
  induction text with
  | nil => simp [occursIn]
  | cons c rest ih =>
      simp [occursIn, ih, List.infix_cons_iff]

/-- Whether one text occurs in another. -/
def mentions (needle text : String) : Bool :=
  occursIn needle.toList text.toList

/-- The text with every occurrence of a character replaced. -/
def replaceChar (old new : Char) (text : String) : String :=
  String.ofList (text.toList.map (fun c => if c = old then new else c))

/-- The first characters of a text, at most so many. -/
def leading (count : Nat) (text : String) : String :=
  String.ofList (text.toList.take count)

/-- The lines of a text: pieces between newlines, without an empty one after the last newline. -/
def lines (text : String) : List String :=
  match (pieces '\n' text).reverse with
  | "" :: rest => rest.reverse
  | all => all.reverse

/-- The texts one after another, with a separator between them. -/
def joined (separator : String) (texts : List String) : String :=
  separator.intercalate texts

end Text
end HostLink
