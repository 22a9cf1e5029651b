import HostLink.Proofs.Glob.Stem
import HostLink.Proofs.Relocation.Failure
import HostLink.Proofs.Text.Utf8

namespace HostLink

/-!
# The library that a relocation of Boost names

The name that is given to the linker has to be that of a file.  The suffix of Boost is read off
the first shared library file, or off the first static one if no file is shared, and with this
suffix the linker is sent to the very file from which it was read.  If there is no such file the
relocation fails.

All this is about the names that the search for the files comes to see.  These are the names in
the directory, whatever special characters its path holds, unless the search loses its way: of
the libraries in `.//boost/lib` it sees none.
-/

namespace Boost

/-! ## Library files -/

/-- The library file with a suffix.  For the linker it is `lib`, the name of the library with
its suffix, and the extension. -/
def libraryFile (suffix extension : String) : String :=
  "lib" ++ (library ++ suffix) ++ ("." ++ extension)

/-- The suffix of the first library file with an extension among some names, in the order of
their bytes. -/
structure First (names : List String) (extension suffix : String) : Prop where
  there : libraryFile suffix extension ∈ names
  least : ∀ other, libraryFile other extension ∈ names →
    Text.utf8Bytes (libraryFile suffix extension).toList ≤
      Text.utf8Bytes (libraryFile other extension).toList

/-- No library file with an extension is among some names. -/
def Lacks (names : List String) (extension : String) : Prop :=
  ∀ suffix, libraryFile suffix extension ∉ names

/-- The suffix that library files show: that of the first shared one, or of the first static
one if none is shared. -/
inductive Shows (names : List String) : String → Prop where
  | shared {suffix : String} (first : First names "so" suffix) : Shows names suffix
  | static {suffix : String} (lacks : Lacks names "so") (first : First names "a" suffix) :
      Shows names suffix

theorem libraryFile_eq (suffix extension : String) :
    libraryFile suffix extension = fileStem ++ suffix ++ ("." ++ extension) := by
  simp only [libraryFile, fileStem, String.append_assoc]

theorem suffixIn_libraryFile (suffix : String) {extension : String}
    (plain : '.' ∉ extension.toList) : suffixIn (libraryFile suffix extension) = suffix := by
  have behind : Text.after? fileStem (libraryFile suffix extension) =
      some (suffix ++ ("." ++ extension)) :=
    Text.after?_eq_some_iff.mpr (by rw [libraryFile_eq, String.append_assoc])
  have cut : Text.cutLast? '.' (suffix ++ ("." ++ extension)) = some (suffix, extension) :=
    Text.cutLast?_eq_some_iff.mpr ⟨String.append_assoc.symm, plain⟩
  unfold suffixIn
  rw [behind, Option.bind_some, cut]

theorem libraryFile_inj {suffix other extension : String} :
    libraryFile suffix extension = libraryFile other extension ↔ suffix = other := by
  simp [libraryFile]

/-! ## Looking for them -/

/-- Among names in order, the first that passes a test comes before the others that do. -/
theorem before_of_find? {names : List String} {test : String → Bool} {first other : String}
    (sorted : names.Pairwise (fun a b => KeyOrder.before a b = true))
    (found : names.find? test = some first) (listed : other ∈ names) (passes : test other = true) :
    KeyOrder.before other first = false := by
  rcases List.find?_eq_some_iff_append.mp found with ⟨_, front, behind, rfl, failing⟩
  rcases List.mem_append.mp listed with early | later
  · have fails := failing other early
    rw [passes] at fails
    cases fails
  · rcases List.mem_cons.mp later with same | later
    · rw [same]
      exact KeyOrder.irrefl first
    · have ordered := (List.pairwise_append.mp sorted).2.1
      exact KeyOrder.asymm (List.rel_of_pairwise_cons ordered later)

section Looking

variable {names : List String} {extension suffix : String}

/-- Whether a name is that of a library file with an extension. -/
def isLibraryFile (extension name : String) : Bool :=
  Glob.fits (Glob.stemmed fileStem ("." ++ extension)) name.toList

theorem isLibraryFile_iff {name : String} :
    isLibraryFile extension name = true ↔ ∃ suffix, name = libraryFile suffix extension := by
  unfold isLibraryFile
  rw [Glob.fits_stemmed_iff]
  simp only [libraryFile_eq]

theorem First.unique {other : String} (one : First names extension suffix)
    (another : First names extension other) : suffix = other := by
  apply libraryFile_inj.mp
  apply String.toList_injective
  apply KeyOrder.beforeList_connected
  · exact Bool.eq_false_iff.mpr (fun less => another.least suffix one.there
      (Text.beforeList_iff.mp less))
  · exact Bool.eq_false_iff.mpr (fun less => one.least other another.there
      (Text.beforeList_iff.mp less))

theorem find?_eq_none_iff :
    names.find? (isLibraryFile extension) = none ↔ Lacks names extension := by
  rw [List.find?_eq_none]
  constructor
  · intro fails suffix listed
    exact fails _ listed (isLibraryFile_iff.mpr ⟨suffix, rfl⟩)
  · intro lacks name listed file
    rcases isLibraryFile_iff.mp file with ⟨suffix, rfl⟩
    exact lacks suffix listed

/-- The first library file in a list of names in order is the first in the order of bytes. -/
theorem find?_eq_some_iff (sorted : names.Pairwise (fun a b => KeyOrder.before a b = true)) :
    names.find? (isLibraryFile extension) = some (libraryFile suffix extension) ↔
      First names extension suffix := by
  have first : ∀ other,
      names.find? (isLibraryFile extension) = some (libraryFile other extension) →
        First names extension other := by
    intro other found
    refine ⟨List.mem_of_find?_eq_some found, ?_⟩
    intro another listed less
    have later := before_of_find? sorted found listed (isLibraryFile_iff.mpr ⟨another, rfl⟩)
    exact Bool.false_ne_true (later.symm.trans (Text.beforeList_iff.mpr less))
  constructor
  · exact first suffix
  · intro own
    cases found : names.find? (isLibraryFile extension) with
    | none => exact absurd own.there (find?_eq_none_iff.mp found suffix)
    | some name =>
        rcases isLibraryFile_iff.mp (List.find?_some found) with ⟨other, rfl⟩
        rw [own.unique (first other found)]

end Looking

/-! ## The suffix -/

section Suffix

variable {t : FileTree} {d : Path}

/-- The first file that the search finds is the first library file among the names it sees. -/
theorem firstFile?_eq (written : d.text ≠ "") (opened : Text.endsWith "/" d.text = false)
    {extension : String} (closing : Glob.IsEnding ("." ++ extension)) :
    firstFile? t d extension =
      .ok (((Glob.seen t d).find? (isLibraryFile extension)).map (Glob.entryPath (Glob.walk d))) := by
  have pattern : filePattern d extension = Glob.stemPattern d fileStem ("." ++ extension) := by
    have star : "*" ++ ("." ++ extension) = "*." ++ extension := by
      rw [← String.append_assoc]
      rfl
    unfold filePattern Glob.stemPattern
    rw [star, String.append_assoc]
  unfold firstFile?
  rw [pattern, Glob.paths_stemPattern written opened (by decide) closing rfl]
  simp only
  rw [List.head?_map, List.head?_filter]
  rfl

/-- The suffix is that of the first shared library file, or of the first static one. -/
theorem suffix_eq (written : d.text ≠ "") (opened : Text.endsWith "/" d.text = false) :
    suffix t d =
      match ((Glob.seen t d).find? (isLibraryFile "so")).or
        ((Glob.seen t d).find? (isLibraryFile "a")) with
      | some name => .ok (suffixIn name)
      | none => .error (.libraryNotFound "Boost" library d) := by
  have so : Glob.IsEnding ("." ++ "so") := ⟨by decide, by simp [Glob.isSpecial]⟩
  have a : Glob.IsEnding ("." ++ "a") := ⟨by decide, by simp [Glob.isSpecial]⟩
  have named : ∀ extension name, (Glob.seen t d).find? (isLibraryFile extension) = some name →
      (Glob.entryPath (Glob.walk d) name).fileName? = some name :=
    fun _ _ found => Glob.fileName?_of_mem_seen (List.mem_of_find?_eq_some found)
  unfold suffix
  rw [firstFile?_eq written opened so, firstFile?_eq written opened a]
  cases found : (Glob.seen t d).find? (isLibraryFile "so") with
  | some name =>
      change Except.ok (suffixIn ((Glob.entryPath (Glob.walk d) name).fileName?.getD "")) = _
      rw [named "so" name found]
      rfl
  | none =>
      cases found' : (Glob.seen t d).find? (isLibraryFile "a") with
      | some name =>
          change Except.ok (suffixIn ((Glob.entryPath (Glob.walk d) name).fileName?.getD "")) = _
          rw [named "a" name found']
          rfl
      | none => rfl

theorem suffix_eq_error_iff (written : d.text ≠ "") (opened : Text.endsWith "/" d.text = false)
    {e : Misconfiguration} :
    suffix t d = .error e ↔
      (Lacks (Glob.seen t d) "so" ∧ Lacks (Glob.seen t d) "a") ∧
        e = .libraryNotFound "Boost" library d := by
  rw [suffix_eq written opened, ← find?_eq_none_iff, ← find?_eq_none_iff, ← Option.or_eq_none_iff]
  cases ((Glob.seen t d).find? (isLibraryFile "so")).or
      ((Glob.seen t d).find? (isLibraryFile "a")) with
  | some name => simp
  | none => simp [eq_comm]

/-- The suffix that is found is the one that the library files show. -/
theorem suffix_eq_ok_iff (written : d.text ≠ "") (opened : Text.endsWith "/" d.text = false)
    {found : String} : suffix t d = .ok found ↔ Shows (Glob.seen t d) found := by
  have sorted := Glob.sorted_seen t d
  have own : ∀ suffix, suffixIn (libraryFile suffix "so") = suffix :=
    fun suffix => suffixIn_libraryFile suffix (by decide)
  have own' : ∀ suffix, suffixIn (libraryFile suffix "a") = suffix :=
    fun suffix => suffixIn_libraryFile suffix (by decide)
  rw [suffix_eq written opened]
  cases shared : (Glob.seen t d).find? (isLibraryFile "so") with
  | some name =>
      rcases isLibraryFile_iff.mp (List.find?_some shared) with ⟨suffix, rfl⟩
      have first := (find?_eq_some_iff sorted).mp shared
      rw [Option.some_or]
      simp only [own, Except.ok.injEq]
      constructor
      · rintro rfl
        exact .shared first
      · intro shows
        cases shows with
        | shared other => exact first.unique other
        | static lacks _ => exact absurd first.there (lacks suffix)
  | none =>
      have lacks := find?_eq_none_iff.mp shared
      rw [Option.none_or]
      cases static : (Glob.seen t d).find? (isLibraryFile "a") with
      | some name =>
          rcases isLibraryFile_iff.mp (List.find?_some static) with ⟨suffix, rfl⟩
          have first := (find?_eq_some_iff sorted).mp static
          simp only [own', Except.ok.injEq]
          constructor
          · rintro rfl
            exact .static lacks first
          · intro shows
            cases shows with
            | shared other => exact absurd other.there (lacks found)
            | static _ other => exact first.unique other
      | none =>
          refine iff_of_false nofun ?_
          intro shows
          cases shows with
          | shared other => exact lacks found other.there
          | static _ other => exact find?_eq_none_iff.mp static found other.there

end Suffix

end Boost

namespace Relocatable

/-! ## The library that is named -/

section Named

variable {t : FileTree} {version : String} {base : Path} {p p' : Profile}

/-- The directory with the library files, for a place that is there. -/
theorem libPath_of_present (present : t.present base = true) :
    (base.child "lib").text ≠ "" ∧ Text.endsWith "/" (base.child "lib").text = false := by
  rcases FileTree.present_iff.mp present with ⟨_, located, _⟩
  have written := (FileTree.locate_eq_ok_iff.mp located).1
  exact ⟨Path.text_child_ne_empty written (by decide),
    Path.opened_child written (by decide) (by decide)⟩

theorem relocateBoost_succeeds_iff :
    (relocate t (.boost version) base).Succeeds p () p' ↔
      t.present base = true ∧ ∃ suffix, boostSuffix t version base = .ok suffix ∧
        p' = (withoutBoost version base p).addLibraries [Boost.library ++ suffix] := by
  constructor
  · intro succeeds
    have present := present_of_succeeds succeeds
    rcases relocateBoost_of_present version p present with ⟨result, state⟩
    have result' := succeeds.result
    have state' := succeeds.state
    change (relocateBoost t version base p).result = _ at result'
    change (relocateBoost t version base p).state = _ at state'
    rw [result] at result'
    rw [state] at state'
    cases found : boostSuffix t version base with
    | error e =>
        rw [found] at result'
        cases result'
    | ok suffix =>
        rw [found] at state'
        exact ⟨present, suffix, rfl, state'.symm⟩
  · rintro ⟨present, suffix, found, rfl⟩
    rcases relocateBoost_of_present version p present with ⟨result, state⟩
    rw [found] at result state
    have succeeds := Action.Succeeds.of_result (x := relocateBoost t version base) result
    rw [state] at succeeds
    exact succeeds

/-- The name that is added is that of a library file. -/
theorem shows_of_succeeds (succeeds : (relocate t (.boost version) base).Succeeds p () p') :
    ∃ suffix, Boost.Shows (Glob.seen t (base.child "lib")) suffix ∧
      p'.libraries = namesWithoutStart "boost_" p.libraries ++ [Boost.library ++ suffix] := by
  rcases relocateBoost_succeeds_iff.mp succeeds with ⟨present, suffix, found, rfl⟩
  rcases libPath_of_present present with ⟨written, opened⟩
  refine ⟨suffix, (Boost.suffix_eq_ok_iff written opened).mp ?_, rfl⟩
  unfold boostSuffix at found
  split at found
  · cases found
  · exact found

/-- With the place there and the version read, only a missing library file makes it fail. -/
theorem boost_fails_iff {flat : Bool} {e : Misconfiguration} (present : t.present base = true)
    (read : Boost.hasFlatHeaders version = .ok flat) :
    (relocate t (.boost version) base p).result = .error e ↔
      (Boost.Lacks (Glob.seen t (base.child "lib")) "so" ∧
        Boost.Lacks (Glob.seen t (base.child "lib")) "a") ∧
      e = .libraryNotFound "Boost" Boost.library (base.child "lib") := by
  rcases libPath_of_present present with ⟨written, opened⟩
  rw [← Boost.suffix_eq_error_iff written opened, relocate,
    (relocateBoost_of_present version p present).1]
  unfold boostSuffix
  rw [read]
  cases Boost.suffix t (base.child "lib") with
  | error cause =>
      change Except.error cause = Except.error e ↔ _
      rw [Except.error.injEq, Except.error.injEq]
  | ok suffix =>
      constructor
      · intro failed
        cases failed
      · intro failed
        cases failed

/-- The names of Boost in a list of which they were dropped and to which one was added. -/
theorem filter_startsWith_append {names : List String} {name : String}
    (own : Text.startsWith "boost_" name = true) :
    (namesWithoutStart "boost_" names ++ [name]).filter (Text.startsWith "boost_") = [name] := by
  have dropped : (namesWithoutStart "boost_" names).filter (Text.startsWith "boost_") = [] := by
    rw [List.filter_eq_nil_iff]
    intro other listed starts
    have lacks := (List.mem_filter.mp listed).2
    rw [starts] at lacks
    cases lacks
  rw [List.filter_append, dropped, List.filter_singleton, own]
  rfl

theorem startsWith_library (suffix : String) :
    Text.startsWith "boost_" (Boost.library ++ suffix) = true := by
  refine Text.startsWith_iff.mpr ⟨"serialization" ++ suffix, ?_⟩
  rw [← String.append_assoc]
  rfl

/-- A relocation of Boost that succeeds drops every library of Boost and adds one, of which
there is a file: the first that is shared, or the first that is static if none is shared.  With
the place there and a version that can be read it fails exactly if there is no such file.  This
is so for the names that the search sees in the directory of the libraries, and these are all
its names unless the search loses its way there. -/
theorem library_of_boost_relocation (t : FileTree) (version : String) (base : Path)
    (p : Profile) :
    (∀ p', (relocate t (.boost version) base).Succeeds p () p' →
      ∃ suffix, Boost.Shows (Glob.seen t (base.child "lib")) suffix ∧
        p'.libraries = namesWithoutStart "boost_" p.libraries ++ [Boost.library ++ suffix] ∧
        p'.libraries.filter (Text.startsWith "boost_") = [Boost.library ++ suffix]) ∧
    (t.present base = true → ∀ flat, Boost.hasFlatHeaders version = .ok flat → ∀ e,
      (relocate t (.boost version) base p).result = .error e ↔
        (Boost.Lacks (Glob.seen t (base.child "lib")) "so" ∧
          Boost.Lacks (Glob.seen t (base.child "lib")) "a") ∧
        e = .libraryNotFound "Boost" Boost.library (base.child "lib")) ∧
    (Glob.loses (base.child "lib") = false →
      (base.child "lib").text.utf8ByteSize ≤ FileTree.longestPath →
        Glob.seen t (base.child "lib") = Glob.namesAt t (base.child "lib")) := by
  refine ⟨?_, ?_, ?_⟩
  · intro p' succeeds
    rcases shows_of_succeeds succeeds with ⟨suffix, shows, libraries⟩
    refine ⟨suffix, shows, libraries, ?_⟩
    rw [libraries]
    exact filter_startsWith_append (startsWith_library suffix)
  · intro present flat read e
    exact boost_fails_iff present read
  · intro finds short
    have written : (base.child "lib").text ≠ "" := by
      intro vacant
      rcases Path.text_child base (show (⟨"lib"⟩ : Path).isAbsolute = false by rfl) with
        ⟨between, _, text⟩
      rw [vacant, ← String.append_assoc] at text
      have characters := congrArg String.toList text
      rw [String.toList_append] at characters
      exact List.cons_ne_nil _ _ (List.append_eq_nil_iff.mp characters.symm).2
    exact Glob.seen_eq finds written short

/-- A place with one shared library file, whose name says what it was built with. -/
def tunedBoost : FileTree :=
  (FileTree.empty.putFile? ["boost[1]", "lib", "libboost_serialization-gcc43-mt.so"] []
    false).getD FileTree.empty

/-- Not every place with a library file is one from which Boost can be used. -/
theorem not_forall_library_found :
    ¬ ∀ (t : FileTree) (version : String) (base : Path) (p : Profile) (flat : Bool),
      t.present base = true → Boost.hasFlatHeaders version = .ok flat →
        ((relocate t (.boost version) base p).result =
            .error (.libraryNotFound "Boost" Boost.library (base.child "lib")) ↔
          Boost.Lacks (Glob.namesAt t (base.child "lib")) "so" ∧
            Boost.Lacks (Glob.namesAt t (base.child "lib")) "a") := by
  intro found
  have present : tunedBoost.present ⟨".//boost[1]"⟩ = true := by decide
  have read : Boost.hasFlatHeaders "1.40" = .ok true := by decide
  have nothing : Glob.seen tunedBoost (Path.child ⟨".//boost[1]"⟩ "lib") = [] := by decide
  have fails : (relocate tunedBoost (.boost "1.40") ⟨".//boost[1]"⟩ Profile.plain).result =
      .error (.libraryNotFound "Boost" Boost.library (Path.child ⟨".//boost[1]"⟩ "lib")) := by
    rw [boost_fails_iff present read, nothing]
    exact ⟨⟨fun _ => List.not_mem_nil, fun _ => List.not_mem_nil⟩, rfl⟩
  exact ((found _ _ _ _ _ present read).mp fails).1 "-gcc43-mt" (by decide)

/-- The profile that names the library in this place. -/
def tunedProfile : Profile :=
  (withoutBoost "1.40" ⟨"boost[1]"⟩ Profile.plain).addLibraries ["boost_serialization-gcc43-mt"]

/-- The special characters of a place do not matter. -/
theorem library_of_boost_relocation_tuned :
    (relocate tunedBoost (.boost "1.40") ⟨"boost[1]"⟩).Succeeds Profile.plain () tunedProfile ∧
      (∃ suffix, Boost.Shows (Glob.seen tunedBoost ⟨"boost[1]/lib"⟩) suffix ∧
        tunedProfile.libraries =
          namesWithoutStart "boost_" Profile.plain.libraries ++ [Boost.library ++ suffix]) ∧
      Glob.seen tunedBoost ⟨"boost[1]/lib"⟩ = Glob.namesAt tunedBoost ⟨"boost[1]/lib"⟩ ∧
      ∀ e, (relocate tunedBoost (.boost "1.40") ⟨"boost[1]"⟩ Profile.plain).result ≠ .error e := by
  have found : Boost.suffix tunedBoost (Path.child ⟨"boost[1]"⟩ "lib") = .ok "-gcc43-mt" := by
    rw [Boost.suffix_eq (by decide) (by decide)]
    decide
  have succeeds :
      (relocate tunedBoost (.boost "1.40") ⟨"boost[1]"⟩).Succeeds Profile.plain () tunedProfile :=
    relocateBoost_succeeds_iff.mpr ⟨by decide, "-gcc43-mt", found, rfl⟩
  rcases library_of_boost_relocation tunedBoost "1.40" ⟨"boost[1]"⟩ Profile.plain with
    ⟨names, fails, sees⟩
  rcases names _ succeeds with ⟨suffix, shows, libraries, _⟩
  refine ⟨succeeds, ⟨suffix, shows, libraries⟩, sees (by decide) (by decide), ?_⟩
  intro e failed
  have lacks := ((fails (by decide) true (by decide) e).mp failed).1
  exact lacks.1 "-gcc43-mt" (by decide)

end Named

end Relocatable
end HostLink
