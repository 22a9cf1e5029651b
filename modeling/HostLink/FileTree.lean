import HostLink.OrderedMap
import HostLink.Path

namespace HostLink

/-!
The files and directories a run sees.  A tree binds locations, which are lists of names from
the root of all directories, to files and directories; there are no links.  Whatever is in
the tree lies in a directory that is in the tree as well, so a location is there exactly if
every location on the way to it is.  Every name in the tree can stand as one segment of a
path.

A path is followed segment by segment from the root or from the working directory.  Every
segment, also an empty one or `.`, can only be taken from a directory; this is why a path
that ends in a slash denotes a directory or nothing.
-/

/-- The names that lead to a place from the root of all directories. -/
abbrev Location := List String

/-- What is found at a location. -/
inductive Entry where
  | directory
  | file (content : List UInt8) (executable : Bool)
  deriving DecidableEq

namespace Entry

def isDirectory : Entry → Bool
  | .directory => true
  | .file _ _ => false

end Entry

/-- Why a file cannot be had. -/
inductive FileFailure where
  | notFound
  | notADirectory
  | isADirectory
  | nameTooLong
  | nulInName
  | notText
  deriving DecidableEq

namespace FileFailure

def message : FileFailure → String
  | .notFound => "No such file or directory (os error 2)"
  | .notADirectory => "Not a directory (os error 20)"
  | .isADirectory => "Is a directory (os error 21)"
  | .nameTooLong => "File name too long (os error 36)"
  | .nulInName => "file name contained an unexpected NUL byte"
  | .notText => "stream did not contain valid UTF-8"

end FileFailure

/-- The most bytes a name can have. -/
def FileTree.longestName : Nat := 255

/-- Whether a directory can hold an entry of this name. -/
def FileTree.isName (name : String) : Bool :=
  name != "" && name != "." && name != ".." && !name.toList.contains '/' &&
    !name.toList.contains '\x00' && decide (name.utf8ByteSize ≤ longestName)

/-- Files and directories, and the directory from which relative paths are followed. -/
structure FileTree where
  entries : OrderedMap Location Entry
  workDir : Location
  closed : ∀ (location : Location) (name : String),
    (entries.find? (location ++ [name])).isSome = true →
      location = [] ∨ entries.find? location = some .directory
  named : ∀ (location : Location) (name : String),
    (entries.find? (location ++ [name])).isSome = true → FileTree.isName name = true

namespace FileTree

open Text (pieces)

/-- The tree that holds nothing but the root. -/
def empty : FileTree where
  entries := OrderedMap.empty
  workDir := []
  closed location name h := by simp at h
  named location name h := by simp at h

instance : Inhabited FileTree := ⟨empty⟩

/-- What is at a location; the root is always a directory. -/
def entryAt (t : FileTree) : Location → Option Entry
  | [] => some .directory
  | location => t.entries.find? location

theorem entryAt_of_ne_nil (t : FileTree) {location : Location} (h : location ≠ []) :
    t.entryAt location = t.entries.find? location := by
  cases location with
  | nil => exact absurd rfl h
  | cons name rest => rfl

/-- Everything in the tree lies in a directory of the tree. -/
theorem entryAt_parent (t : FileTree) {location : Location} {name : String}
    (h : (t.entryAt (location ++ [name])).isSome = true) :
    t.entryAt location = some .directory := by
  rw [entryAt_of_ne_nil t (by simp)] at h
  rcases t.closed location name h with rfl | hdir
  · rfl
  · cases location with
    | nil => rfl
    | cons first rest => exact hdir

/-- Whatever is in a directory of the tree has a name. -/
theorem isName_of_entryAt (t : FileTree) {location : Location} {name : String}
    (h : (t.entryAt (location ++ [name])).isSome = true) : isName name = true := by
  rw [entryAt_of_ne_nil t (by simp)] at h
  exact t.named location name h

/-- Whether a new entry may stand where the tree has this one: a file gives way to a file. -/
def givesWay (entry : Entry) : Option Entry → Bool
  | none => true
  | some old => old.isDirectory == entry.isDirectory

/-- Puts an entry into a directory of the tree, unless it has no name for one or something
else is in its place. -/
def put? (t : FileTree) (location : Location) (entry : Entry) : Option FileTree :=
  if h : location.getLast?.any isName = true ∧
      t.entryAt location.dropLast = some .directory ∧
      givesWay entry (t.entryAt location) = true then
    some
      { entries := t.entries.insert location entry
        workDir := t.workDir
        closed := by
          intro parent name hsome
          by_cases hloc : parent ++ [name] = location
          · have hparent : location.dropLast = parent := by rw [← hloc]; simp
            rw [hparent] at h
            have hne : location ≠ parent := by
              rw [← hloc]
              intro heq
              have := congrArg List.length heq
              simp at this
            cases parent with
            | nil => exact Or.inl rfl
            | cons first rest =>
                right
                rw [OrderedMap.find?_insert_of_ne _ hne]
                exact h.2.1
          · rw [OrderedMap.find?_insert_of_ne _ (Ne.symm hloc)] at hsome
            rcases t.closed parent name hsome with hnil | hdir
            · exact Or.inl hnil
            · right
              by_cases heq : location = parent
              · subst heq
                have hne : location ≠ [] := by
                  rintro rfl
                  simp at h
                have hold : t.entryAt location = some .directory := by
                  rw [entryAt_of_ne_nil t hne]
                  exact hdir
                have hway := h.2.2
                rw [hold] at hway
                cases entry with
                | directory => simp
                | file content executable => simp [givesWay, Entry.isDirectory] at hway
              · rw [OrderedMap.find?_insert_of_ne _ heq]
                exact hdir
        named := by
          intro parent name hsome
          by_cases hloc : parent ++ [name] = location
          · have hlast : location.getLast? = some name := by rw [← hloc]; simp
            have hname := h.1
            rw [hlast] at hname
            simpa using hname
          · rw [OrderedMap.find?_insert_of_ne _ (Ne.symm hloc)] at hsome
            exact t.named parent name hsome }
  else none

/-- Makes the directories on a way that are not there yet. -/
def makeDirectories? (t : FileTree) (location : Location) : List String → Option FileTree
  | [] => some t
  | name :: rest =>
      let next := location ++ [name]
      if t.entryAt next = some .directory then t.makeDirectories? next rest
      else (t.put? next .directory).bind (fun t => t.makeDirectories? next rest)

/-- Puts a file into the tree, with the directories on the way to it. -/
def putFile? (t : FileTree) (location : Location) (content : List UInt8)
    (executable : Bool) : Option FileTree :=
  (t.makeDirectories? [] location.dropLast).bind
    (fun t => t.put? location (.file content executable))

/-- The tree without the file at a location; a directory stays. -/
def eraseFile (t : FileTree) (location : Location) : FileTree where
  entries :=
    if t.entries.find? location = some .directory then t.entries
    else t.entries.erase location
  workDir := t.workDir
  closed := by
    split
    · exact t.closed
    · rename_i hdir
      intro parent name hsome
      obtain ⟨entry, hentry⟩ := Option.isSome_iff_exists.mp hsome
      have hold := (OrderedMap.find?_erase _).mp hentry
      rcases t.closed parent name (by rw [hold.1]; rfl) with hnil | hparent
      · exact Or.inl hnil
      · right
        refine (OrderedMap.find?_erase _).mpr ⟨hparent, ?_⟩
        rintro rfl
        exact hdir hparent
  named := by
    split
    · exact t.named
    · intro parent name hsome
      obtain ⟨entry, hentry⟩ := Option.isSome_iff_exists.mp hsome
      have hold := (OrderedMap.find?_erase _).mp hentry
      exact t.named parent name (by rw [hold.1]; rfl)

/-- The most bytes a path can have. -/
def longestPath : Nat := 4095

/-- Follows segments from a location.  Each can only be taken from a directory. -/
def follow (t : FileTree) (location : Location) : List String → Except FileFailure Location
  | [] => .ok location
  | segment :: rest =>
      match t.entryAt location with
      | none => .error .notFound
      | some (.file _ _) => .error .notADirectory
      | some .directory =>
          if segment = "" ∨ segment = "." then t.follow location rest
          else if segment = ".." then t.follow location.dropLast rest
          else if longestName < segment.utf8ByteSize then .error .nameTooLong
          else if (t.entryAt (location ++ [segment])).isSome then
            t.follow (location ++ [segment]) rest
          else .error .notFound

/-- Where following a path starts. -/
def start (t : FileTree) (p : Path) : Location :=
  if p.isAbsolute then [] else t.workDir

/-- The location a path denotes. -/
def locate (t : FileTree) (p : Path) : Except FileFailure Location :=
  if p.text.toList.contains '\x00' then .error .nulInName
  else if p.text = "" then .error .notFound
  else if longestPath < p.text.utf8ByteSize then .error .nameTooLong
  else t.follow (t.start p) (pieces '/' p.text)

/-- What a path denotes. -/
def entry? (t : FileTree) (p : Path) : Option Entry :=
  match t.locate p with
  | .ok location => t.entryAt location
  | .error _ => none

def present (t : FileTree) (p : Path) : Bool :=
  (t.entry? p).isSome

def isDirectory (t : FileTree) (p : Path) : Bool :=
  t.entry? p == some .directory

def isFile (t : FileTree) (p : Path) : Bool :=
  match t.entry? p with
  | some (.file _ _) => true
  | _ => false

def isExecutable (t : FileTree) (p : Path) : Bool :=
  match t.entry? p with
  | some (.file _ executable) => executable
  | _ => false

theorem present_of_isDirectory (t : FileTree) {p : Path} (h : t.isDirectory p = true) :
    t.present p = true := by
  simp only [isDirectory, beq_iff_eq] at h
  simp [present, h]

/-- The bytes of the file a path denotes. -/
def read (t : FileTree) (p : Path) : Except FileFailure (List UInt8) :=
  match t.locate p with
  | .error cause => .error cause
  | .ok location =>
      match t.entryAt location with
      | some (.file content _) => .ok content
      | some .directory => .error .isADirectory
      | none => .error .notFound

/-- The text of the file a path denotes. -/
def readText (t : FileTree) (p : Path) : Except FileFailure String :=
  match t.read p with
  | .error cause => .error cause
  | .ok bytes =>
      match String.fromUTF8? ⟨bytes.toArray⟩ with
      | some text => .ok text
      | none => .error .notText

/-- The tree without the file a path denotes. -/
def remove (t : FileTree) (p : Path) : Except FileFailure FileTree :=
  match t.locate p with
  | .error cause => .error cause
  | .ok location =>
      match t.entryAt location with
      | some (.file _ _) => .ok (t.eraseFile location)
      | some .directory => .error .isADirectory
      | none => .error .notFound

/-- The names on the way from a location to each entry below it.  What a directory holds
follows the directory, and names in one directory are in order. -/
def below (t : FileTree) (location : Location) : List (List String) :=
  t.entries.keys.filterMap (fun other =>
    if location.isPrefixOf other && location.length < other.length then
      some (other.drop location.length)
    else none)

/-- The names of the entries of a directory, in order. -/
def names (t : FileTree) (location : Location) : List String :=
  (t.below location).filterMap (fun way =>
    match way with
    | [name] => some name
    | _ => none)

end FileTree

end HostLink
