import HostLink.KeyOrder

namespace HostLink

/-!
Finite maps whose entries are kept in the order of their keys.  Each key occurs once, so
two maps with the same bindings are equal, and everything that walks a map meets its keys
in the same order however the map was built.
-/

open KeyOrder (before same)

/-- A finite map: its entries, strictly increasing in their keys. -/
structure OrderedMap (κ α : Type) [KeyOrder κ] where
  entries : List (κ × α)
  sorted : entries.Pairwise (fun x y => before x.1 y.1 = true)

namespace OrderedMap

variable {κ α : Type} [KeyOrder κ]

/-- The value of the first entry with this key. -/
def lookupIn (key : κ) : List (κ × α) → Option α
  | [] => none
  | (k, a) :: rest => if same k key then some a else lookupIn key rest

/-- Puts an entry in its place, over an entry of the same key. -/
def insertIn (key : κ) (value : α) : List (κ × α) → List (κ × α)
  | [] => [(key, value)]
  | (k, a) :: rest =>
      if before key k then (key, value) :: (k, a) :: rest
      else if before k key then (k, a) :: insertIn key value rest
      else (key, value) :: rest

theorem mem_insertIn {key : κ} {value : α} {x : κ × α} {entries : List (κ × α)}
    (h : x ∈ insertIn key value entries) : x = (key, value) ∨ x ∈ entries := by
  induction entries with
  | nil => simpa [insertIn] using h
  | cons e rest ih =>
      obtain ⟨k, a⟩ := e
      simp only [insertIn] at h
      split at h
      · simpa using h
      · split at h
        · rcases List.mem_cons.mp h with h | h
          · exact Or.inr (by simp [h])
          · rcases ih h with h | h
            · exact Or.inl h
            · exact Or.inr (by simp [h])
        · rcases List.mem_cons.mp h with h | h
          · exact Or.inl h
          · exact Or.inr (by simp [h])

theorem sorted_insertIn {key : κ} {value : α} {entries : List (κ × α)}
    (h : entries.Pairwise (fun x y => before x.1 y.1 = true)) :
    (insertIn key value entries).Pairwise (fun x y => before x.1 y.1 = true) := by
  induction entries with
  | nil => simp [insertIn]
  | cons e rest ih =>
      obtain ⟨k, a⟩ := e
      have hrest := (List.pairwise_cons.mp h).2
      have hhead := (List.pairwise_cons.mp h).1
      simp only [insertIn]
      split
      · rename_i hk
        refine List.pairwise_cons.mpr ⟨?_, h⟩
        intro y hy
        rcases List.mem_cons.mp hy with rfl | hy
        · exact hk
        · exact KeyOrder.trans _ _ _ hk (hhead y hy)
      · split
        · rename_i hk
          refine List.pairwise_cons.mpr ⟨?_, ih hrest⟩
          intro y hy
          rcases mem_insertIn hy with rfl | hy
          · exact hk
          · exact hhead y hy
        · rename_i h1 h2
          have heq : key = k :=
            KeyOrder.connected key k (by simpa using h1) (by simpa using h2)
          subst heq
          exact List.pairwise_cons.mpr ⟨hhead, hrest⟩

/-- The map without entries. -/
def empty : OrderedMap κ α where
  entries := []
  sorted := List.Pairwise.nil

instance : EmptyCollection (OrderedMap κ α) := ⟨empty⟩

instance : Inhabited (OrderedMap κ α) := ⟨empty⟩

@[ext]
theorem ext {m n : OrderedMap κ α} (h : m.entries = n.entries) : m = n := by
  cases m
  cases n
  cases h
  rfl

instance [DecidableEq κ] [DecidableEq α] : DecidableEq (OrderedMap κ α) := fun m n =>
  if h : m.entries = n.entries then isTrue (ext h)
  else isFalse (fun heq => h (congrArg entries heq))

/-- The value bound to a key. -/
def find? (m : OrderedMap κ α) (key : κ) : Option α :=
  lookupIn key m.entries

def contains (m : OrderedMap κ α) (key : κ) : Bool :=
  (m.find? key).isSome

def isEmpty (m : OrderedMap κ α) : Bool :=
  m.entries.isEmpty

/-- The keys, in order. -/
def keys (m : OrderedMap κ α) : List κ :=
  m.entries.map Prod.fst

/-- The values, in the order of their keys. -/
def values (m : OrderedMap κ α) : List α :=
  m.entries.map Prod.snd

/-- Binds a key, replacing what it was bound to. -/
def insert (m : OrderedMap κ α) (key : κ) (value : α) : OrderedMap κ α where
  entries := insertIn key value m.entries
  sorted := sorted_insertIn m.sorted

/-- Keeps the entries that pass a test. -/
def filter (m : OrderedMap κ α) (keep : κ → α → Bool) : OrderedMap κ α where
  entries := m.entries.filter (fun x => keep x.1 x.2)
  sorted := m.sorted.filter _

/-- Forgets a key. -/
def erase (m : OrderedMap κ α) (key : κ) : OrderedMap κ α :=
  m.filter (fun k _ => !same k key)

/-- Binds the pairs of a list one after another, so that the last of equal keys wins. -/
def insertAll (m : OrderedMap κ α) (pairs : List (κ × α)) : OrderedMap κ α :=
  pairs.foldl (fun acc x => acc.insert x.1 x.2) m

/-- All bindings of the second map, and those of the first for its other keys. -/
def overlay (m n : OrderedMap κ α) : OrderedMap κ α :=
  m.insertAll n.entries

def ofList (pairs : List (κ × α)) : OrderedMap κ α :=
  insertAll empty pairs

@[simp]
theorem find?_empty (key : κ) : (empty : OrderedMap κ α).find? key = none :=
  rfl

theorem lookupIn_insertIn_self (key : κ) (value : α) (entries : List (κ × α)) :
    lookupIn key (insertIn key value entries) = some value := by
  have hself : same key key = true := KeyOrder.same_iff.mpr rfl
  induction entries with
  | nil => simp [insertIn, lookupIn]
  | cons e rest ih =>
      obtain ⟨k, a⟩ := e
      simp only [insertIn]
      split
      · simp [lookupIn]
      · split
        · rename_i hk
          have hne : same k key = false := by
            cases h : same k key with
            | false => rfl
            | true => exact absurd (KeyOrder.same_iff.mp h) (KeyOrder.ne_of_before hk)
          simp [lookupIn, hne, ih]
        · simp [lookupIn]

theorem lookupIn_insertIn_of_ne {key other : κ} (hne : key ≠ other) (value : α)
    (entries : List (κ × α)) :
    lookupIn other (insertIn key value entries) = lookupIn other entries := by
  have hother : same key other = false := by
    cases h : same key other with
    | false => rfl
    | true => exact absurd (KeyOrder.same_iff.mp h) hne
  induction entries with
  | nil => simp [insertIn, lookupIn, hother]
  | cons e rest ih =>
      obtain ⟨k, a⟩ := e
      simp only [insertIn]
      split
      · simp [lookupIn, hother]
      · split
        · simp [lookupIn, ih]
        · rename_i h1 h2
          have heq : key = k :=
            KeyOrder.connected key k (by simpa using h1) (by simpa using h2)
          subst heq
          simp [lookupIn, hother]

@[simp]
theorem find?_insert_self (m : OrderedMap κ α) (key : κ) (value : α) :
    (m.insert key value).find? key = some value :=
  lookupIn_insertIn_self key value m.entries

theorem find?_insert_of_ne (m : OrderedMap κ α) {key other : κ} (hne : key ≠ other)
    (value : α) : (m.insert key value).find? other = m.find? other :=
  lookupIn_insertIn_of_ne hne value m.entries

theorem lookupIn_eq_some_of_mem {entries : List (κ × α)}
    (hsorted : entries.Pairwise (fun x y => before x.1 y.1 = true)) {key : κ} {value : α}
    (h : (key, value) ∈ entries) : lookupIn key entries = some value := by
  induction entries with
  | nil => cases h
  | cons e rest ih =>
      obtain ⟨k, a⟩ := e
      have hhead := (List.pairwise_cons.mp hsorted).1
      rcases List.mem_cons.mp h with heq | hmem
      · cases heq
        simp [lookupIn]
      · have hne : same k key = false := by
          cases hs : same k key with
          | false => rfl
          | true =>
              exact absurd (KeyOrder.same_iff.mp hs)
                (KeyOrder.ne_of_before (hhead (key, value) hmem))
        simp [lookupIn, hne, ih (List.pairwise_cons.mp hsorted).2 hmem]

theorem mem_of_lookupIn_eq_some {entries : List (κ × α)} {key : κ} {value : α}
    (h : lookupIn key entries = some value) : (key, value) ∈ entries := by
  induction entries with
  | nil => cases h
  | cons e rest ih =>
      obtain ⟨k, a⟩ := e
      simp only [lookupIn] at h
      split at h
      · rename_i hs
        cases h
        rw [KeyOrder.same_iff.mp hs]
        simp
      · exact List.mem_cons_of_mem _ (ih h)

/-- Looking a key up and finding its entry are the same. -/
theorem find?_eq_some_iff (m : OrderedMap κ α) {key : κ} {value : α} :
    m.find? key = some value ↔ (key, value) ∈ m.entries :=
  ⟨mem_of_lookupIn_eq_some, lookupIn_eq_some_of_mem m.sorted⟩

theorem find?_filter (m : OrderedMap κ α) (keep : κ → α → Bool) {key : κ} {value : α} :
    (m.filter keep).find? key = some value ↔
      m.find? key = some value ∧ keep key value = true := by
  simp [find?_eq_some_iff, filter]

theorem find?_erase (m : OrderedMap κ α) {key other : κ} {value : α} :
    (m.erase key).find? other = some value ↔ m.find? other = some value ∧ other ≠ key := by
  simp only [erase, find?_filter, Bool.not_eq_true']
  constructor
  · rintro ⟨h, hs⟩
    refine ⟨h, fun heq => ?_⟩
    rw [KeyOrder.same_iff.mpr heq] at hs
    cases hs
  · rintro ⟨h, hne⟩
    refine ⟨h, ?_⟩
    cases hs : same other key with
    | false => rfl
    | true => exact absurd (KeyOrder.same_iff.mp hs) hne

end OrderedMap

end HostLink
