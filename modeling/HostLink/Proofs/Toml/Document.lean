import HostLink.Proofs.Toml.Value

namespace HostLink
namespace Toml

/-!
# Documents that were written are read back

A document is read line by line, and each line changes the outline of what was read so far.
`ReadsAs` says what a text makes of an outline without mentioning how many steps it takes, so a
document is read back by one rule for each kind of line.

The members that are no tables are written first.  So a document gives its members back with
the tables behind all others, and otherwise in their order.
-/

/-- The values that a document can hold: values on lines of their own, and tables of them. -/
inductive Writable : Value → Prop where
  | line {v : Value} (plain : Plain (depthBound - 1) v) : Writable v
  | table {inner : Members} (keys : (inner.map Prod.fst).Nodup)
      (each : ∀ m ∈ inner, Plain (depthBound - 1) m.2) : Writable (.table inner)

theorem isTable_of_plain {depth : Nat} {v : Value} (plain : Plain depth v) : isTable v = false := by
  cases plain <;> rfl

/-! ## What is added to an outline -/

namespace Outline

variable {o : Outline} {key : String}

theorem find?_of_notMem (absent : key ∉ o.map Prod.fst) : o.find? key = none := by
  unfold find?
  rw [Option.map_eq_none_iff, List.find?_eq_none]
  intro m listed same
  rw [beq_iff_eq] at same
  exact absent (same ▸ List.mem_map_of_mem listed)

theorem find?_concat (absent : key ∉ o.map Prod.fst) (node : Node) :
    find? (o ++ [(key, node)]) key = some node := by
  have front := find?_of_notMem absent
  unfold find? at front ⊢
  rw [Option.map_eq_none_iff] at front
  rw [List.find?_append, front]
  simp

theorem replace_concat (absent : key ∉ o.map Prod.fst) (node other : Node) :
    replace (o ++ [(key, node)]) key other = o ++ [(key, other)] := by
  have front : o.map (fun m => if m.1 == key then (key, other) else m) = o.map id := by
    apply List.map_congr_left
    intro m listed
    rw [if_neg]
    · rfl
    · intro same
      rw [beq_iff_eq] at same
      exact absent (same ▸ List.mem_map_of_mem listed)
  rw [replace, List.map_append, front, List.map_id]
  simp

theorem notMem_of_nodup {node : Node} {later : Outline}
    (keys : ((o ++ [(key, node)] ++ later).map Prod.fst).Nodup) : key ∉ o.map Prod.fst := by
  rw [List.append_assoc, List.map_append, List.nodup_append] at keys
  intro listed
  exact keys.2.2 key listed key (by simp) rfl

theorem addValue_of_notMem (absent : key ∉ o.map Prod.fst) (v : Value) :
    addValue [] key v o = some (o ++ [(key, .value v)]) := by
  simp [addValue, change, find?_of_notMem absent]

theorem openTable_of_notMem (absent : key ∉ o.map Prod.fst) :
    openTable [] key o = some (o ++ [(key, .table .header [])]) := by
  simp [openTable, change, find?_of_notMem absent]

/-- Below a header, new keys are added behind the members of one table, which is a part of the
outline. -/
def Opened (header : List String) (whole : Outline → Outline) : Prop :=
  ∀ members key v, key ∉ members.map Prod.fst →
    addBelow header [] key v (whole members) = some (whole (members ++ [(key, .value v)]))

theorem opened_nil : Opened [] (fun members => members) := by
  intro members key v absent
  exact addValue_of_notMem absent v

theorem opened_concat (absent : key ∉ o.map Prod.fst) :
    Opened [key] (fun members => o ++ [(key, .table .header members)]) := by
  intro members own v new
  simp [addBelow, change, find?_concat absent, addValue_of_notMem new, replace_concat absent]

/-- Members that are no tables, as they are read. -/
def ofLines (ms : Members) : Outline :=
  ms.map (fun m => (m.1, .value m.2))

theorem keys_ofLines (ms : Members) : (ofLines ms).map Prod.fst = ms.map Prod.fst := by
  rw [ofLines, List.map_map]
  rfl

theorem toMembers_append (o p : Outline) : toMembers (o ++ p) = toMembers o ++ toMembers p := by
  induction o with
  | nil => rfl
  | cons m o inductionHypothesis =>
      rw [List.cons_append, toMembers, toMembers, inductionHypothesis, List.cons_append]

theorem toMembers_ofLines (ms : Members) : toMembers (ofLines ms) = ms := by
  induction ms with
  | nil => rfl
  | cons m ms inductionHypothesis =>
      rw [ofLines, List.map_cons, toMembers, Node.toValue]
      exact congrArg (m :: ·) inductionHypothesis

end Outline

open Outline (Opened ofLines)

/-! ## The start of a line -/

/-- A key starts like no space, line end, comment or header. -/
theorem exists_key_eq_cons (key : String) :
    ∃ c text, writtenKey key.toList = c :: text ∧ Visible c ∧ c ≠ '[' ∧ c ≠ '\uFEFF' := by
  rcases exists_writtenKey_eq_cons key.toList with ⟨c, text, form, bare | rfl | rfl⟩
  · have other : ∀ d ∈ [' ', '\t', '\n', '\r', '#', '[', '\uFEFF'], c ≠ d :=
      ne_of_all_not (by decide) bare
    simp only [List.forall_mem_cons, List.not_mem_nil] at other
    rcases other with ⟨space, tab, newline, carriage, comment, bracket, mark, _⟩
    refine ⟨c, text, form, ⟨?_, ⟨newline, carriage⟩, comment⟩, bracket, mark⟩
    simp [isSpace, space, tab]
  all_goals exact ⟨_, text, form, ⟨rfl, by decide, by decide⟩, by decide, by decide⟩

theorem readKey?_writtenKey (key : String) {rest : List Char}
    (ends : rest.head?.any isBare = false) (single : sign? '.' (skipSpaces rest) = none) :
    readKey? (writtenKey key.toList ++ rest) = some (([], key), skipSpaces rest) := by
  have part := readKeyPart?_writtenKey key.toList ends
  rcases exists_key_eq_cons key with ⟨c, text, form, visible, _⟩
  have parts : readKeyParts? (depthBound - 1) (writtenKey key.toList ++ rest) =
      some ([key], skipSpaces rest) := by
    change readKeyParts? (78 + 1) _ = _
    rw [form, List.cons_append] at part ⊢
    rw [readKeyParts?, skipSpaces_of_visible visible, part]
    simp [single]
  rw [readKey?, parts]
  rfl

/-! ## Lines -/

/-- A text makes one draft of another, however many steps more are allowed than it needs. -/
def ReadsAs (d : Draft) (text : List Char) (e : Draft) : Prop :=
  ∀ fuel, text.length < fuel → readLines? fuel d text = some e

/-- The line of a member that is no table. -/
def memberLine (style : Style) (m : String × Value) : List Char :=
  writtenKey m.1.toList ++ [' ', '=', ' '] ++ styled style m.2 ++ ['\n']

/-- The line of a header. -/
def headerLine (key : String) : List Char :=
  ['['] ++ writtenKey key.toList ++ [']', '\n']

theorem restOfLine?_lineEnd (rest : List Char) : restOfLine? ('\n' :: rest) = some rest :=
  rfl

section

variable {style : Style} {d e : Draft} {o : Outline} {m : String × Value} {key : String}
  {rest : List Char}

theorem readMember?_memberLine (plain : Plain (depthBound - 1) m.2)
    (added : Outline.addBelow d.header [] m.1 m.2 d.outline = some o) :
    readMember? d (memberLine style m ++ rest) = some (⟨o, d.header⟩, '\n' :: rest) := by
  have shown : memberLine style m ++ rest =
      writtenKey m.1.toList ++ ' ' :: '=' :: ' ' :: (styled style m.2 ++ '\n' :: rest) := by
    simp [memberLine]
  have value := readValue?_styled plain style (.lineEnd rest)
  rcases exists_styled_eq_cons plain style with ⟨c, text, form, visible⟩
  have spaced : skipSpaces (' ' :: (styled style m.2 ++ '\n' :: rest)) =
      styled style m.2 ++ '\n' :: rest := by
    rw [form]
    exact @skipSpaces_spaces c _ [' '] rfl visible
  have key : readKey? (writtenKey m.1.toList ++
      ' ' :: '=' :: ' ' :: (styled style m.2 ++ '\n' :: rest)) =
        some (([], m.1), '=' :: ' ' :: (styled style m.2 ++ '\n' :: rest)) :=
    readKey?_writtenKey m.1 rfl rfl
  rw [readMember?, shown, key]
  simp only [Option.bind_eq_bind, Option.bind_some, sign?_self, spaced]
  change (readValue? (depthBound - 1 + 1) _ >>= _) = _
  rw [value]
  simp [added]

theorem ReadsAs.nil (d : Draft) : ReadsAs d [] d := by
  intro fuel enough
  obtain ⟨fuel, rfl⟩ := Nat.exists_eq_succ_of_ne_zero (Nat.ne_of_gt enough)
  rfl

theorem ReadsAs.lineEnd (later : ReadsAs d rest e) : ReadsAs d ('\n' :: rest) e := by
  intro fuel enough
  obtain ⟨fuel, rfl⟩ := Nat.exists_eq_succ_of_ne_zero (Nat.ne_zero_of_lt enough)
  exact later fuel (Nat.lt_of_succ_lt_succ enough)

theorem ReadsAs.memberLine (plain : Plain (depthBound - 1) m.2)
    (added : Outline.addBelow d.header [] m.1 m.2 d.outline = some o)
    (later : ReadsAs ⟨o, d.header⟩ rest e) : ReadsAs d (memberLine style m ++ rest) e := by
  intro fuel enough
  obtain ⟨fuel, rfl⟩ := Nat.exists_eq_succ_of_ne_zero (Nat.ne_zero_of_lt enough)
  have member := @readMember?_memberLine style d o m rest plain added
  have shorter : rest.length < fuel := by
    simp only [Toml.memberLine, List.length_append, List.length_cons] at enough
    omega
  rcases exists_key_eq_cons m.1 with ⟨c, text, form, visible, bracket, _⟩
  have shown : ∃ more, Toml.memberLine style m ++ rest = c :: more := by
    simp [Toml.memberLine, form]
  rcases shown with ⟨more, shown⟩
  rw [shown] at member ⊢
  rw [readLines?, skipSpaces_of_visible visible]
  split
  · rename_i impossible
    cases impossible
  · rename_i same
    exact absurd (List.cons.inj same).1 bracket
  · simp only [skipComment_of_visible visible, lineEnd?_of_visible visible, member,
      List.isEmpty_cons, Bool.false_eq_true, if_false, Option.bind_eq_bind, Option.bind_some,
      restOfLine?_lineEnd]
    exact later fuel shorter

theorem ReadsAs.headerLine (opens : Outline.openTable [] key d.outline = some o)
    (later : ReadsAs ⟨o, [key]⟩ rest e) : ReadsAs d (headerLine key ++ rest) e := by
  intro fuel enough
  obtain ⟨fuel, rfl⟩ := Nat.exists_eq_succ_of_ne_zero (Nat.ne_zero_of_lt enough)
  have shorter : rest.length < fuel := by
    simp only [Toml.headerLine, List.length_append, List.length_cons] at enough
    omega
  have shown : Toml.headerLine key ++ rest =
      '[' :: (writtenKey key.toList ++ ']' :: '\n' :: rest) := by
    simp [Toml.headerLine]
  have name : readKey? (writtenKey key.toList ++ ']' :: '\n' :: rest) =
      some (([], key), ']' :: '\n' :: rest) :=
    readKey?_writtenKey key rfl rfl
  have single : sign? '[' (writtenKey key.toList ++ ']' :: '\n' :: rest) = none := by
    rcases exists_key_eq_cons key with ⟨c, text, form, _, bracket, _⟩
    rw [form]
    exact if_neg bracket
  have header : readHeader? d (writtenKey key.toList ++ ']' :: '\n' :: rest) =
      some (⟨o, [key]⟩, '\n' :: rest) := by
    simp [readHeader?, single, name, sign?_self, opens]
  rw [shown]
  change (readHeader? d (writtenKey key.toList ++ ']' :: '\n' :: rest) >>= _) = _
  rw [header]
  exact later fuel shorter

/-- Lines below a header become members of its table. -/
theorem ReadsAs.memberLines {header : List String} {whole : Outline → Outline}
    (opened : Opened header whole) {ms : Members} (each : ∀ m ∈ ms, Plain (depthBound - 1) m.2)
    {before : Outline} (keys : ((before ++ ofLines ms).map Prod.fst).Nodup)
    (later : ReadsAs ⟨whole (before ++ ofLines ms), header⟩ rest e) :
    ReadsAs ⟨whole before, header⟩ (ms.flatMap (Toml.memberLine style) ++ rest) e := by
  induction ms generalizing before with
  | nil => simpa [ofLines] using later
  | cons m ms inductionHypothesis =>
      rcases List.forall_mem_cons.mp each with ⟨own, others⟩
      have split : before ++ ofLines (m :: ms) = before ++ [(m.1, .value m.2)] ++ ofLines ms := by
        rw [List.append_assoc]
        rfl
      rw [split] at keys later
      have new := Outline.notMem_of_nodup keys
      rw [List.flatMap_cons, List.append_assoc]
      exact .memberLine own (opened before m.1 m.2 new) (inductionHypothesis others keys later)

end

/-! ## Tables -/

/-- The node that a member of a document is read as. -/
def nodeOf : Value → Node
  | .table inner => .table .header (ofLines inner)
  | v => .value v

theorem toValue_nodeOf (v : Value) : (nodeOf v).toValue = v := by
  cases v with
  | table inner => exact congrArg Value.table (Outline.toMembers_ofLines inner)
  | _ => rfl

/-- Members as they are read. -/
def outlineOf (ms : Members) : Outline :=
  ms.map (fun m => (m.1, nodeOf m.2))

theorem keys_outlineOf (ms : Members) : (outlineOf ms).map Prod.fst = ms.map Prod.fst := by
  rw [outlineOf, List.map_map]
  rfl

theorem toMembers_outlineOf (ms : Members) : Outline.toMembers (outlineOf ms) = ms := by
  induction ms with
  | nil => rfl
  | cons m ms inductionHypothesis =>
      rw [outlineOf, List.map_cons, Outline.toMembers, toValue_nodeOf]
      exact congrArg (m :: ·) inductionHypothesis

/-- A table below its header, for a member that is a table. -/
def tableOf (style : Style) (m : String × Value) : List Char :=
  match m.2 with
  | .table inner => writtenTable style m.1 inner
  | _ => []

section

variable {style : Style} {o : Outline}

theorem ReadsAs.writtenTable {key : String} {inner : Members} (absent : key ∉ o.map Prod.fst)
    (keys : (inner.map Prod.fst).Nodup) (each : ∀ m ∈ inner, Plain (depthBound - 1) m.2)
    {header : List String} {rest : List Char} {e : Draft}
    (later : ReadsAs ⟨o ++ [(key, nodeOf (.table inner))], [key]⟩ rest e) :
    ReadsAs ⟨o, header⟩ (writtenTable style key inner ++ rest) e := by
  have shown : Toml.writtenTable style key inner ++ rest =
      '\n' :: (Toml.headerLine key ++ (inner.flatMap (Toml.memberLine style) ++ rest)) := by
    change ['\n', '['] ++ writtenKey key.toList ++ [']', '\n'] ++
      inner.flatMap (Toml.memberLine style) ++ rest = _
    simp [Toml.headerLine]
  have lines : ReadsAs ⟨o ++ [(key, .table .header [])], [key]⟩
      (inner.flatMap (Toml.memberLine style) ++ rest) e := by
    refine ReadsAs.memberLines (Outline.opened_concat absent) each ?_ later
    rw [List.nil_append, Outline.keys_ofLines]
    exact keys
  rw [shown]
  exact .lineEnd (.headerLine (Outline.openTable_of_notMem absent) lines)

/-- Tables are put behind what was read before them. -/
theorem exists_readsAs_tables {ms : Members} (each : ∀ m ∈ ms, Writable m.2)
    (keys : ((o ++ outlineOf (ms.filter (fun m => isTable m.2))).map Prod.fst).Nodup)
    (header : List String) :
    ∃ last, ReadsAs ⟨o, header⟩ (ms.flatMap (tableOf style))
      ⟨o ++ outlineOf (ms.filter (fun m => isTable m.2)), last⟩ := by
  induction ms generalizing o header with
  | nil => exact ⟨header, by simpa [outlineOf] using ReadsAs.nil ⟨o, header⟩⟩
  | cons m ms inductionHypothesis =>
      rcases List.forall_mem_cons.mp each with ⟨own, others⟩
      rcases m with ⟨key, v⟩
      rw [List.flatMap_cons]
      cases own with
      | line plain =>
          -- Such a member was written before the tables and leaves no text among them.
          have skipped : ((key, v) :: ms).filter (fun m => isTable m.2) =
              ms.filter (fun m => isTable m.2) :=
            List.filter_cons_of_neg (by simp [isTable_of_plain plain])
          have empty : tableOf style (key, v) = [] := by
            cases plain <;> rfl
          rw [skipped] at keys ⊢
          rw [empty, List.nil_append]
          exact inductionHypothesis others keys header
      | @table inner distinct plain =>
          have kept : ((key, .table inner) :: ms).filter (fun m => isTable m.2) =
              (key, .table inner) :: ms.filter (fun m => isTable m.2) :=
            List.filter_cons_of_pos rfl
          have split : o ++ outlineOf ((key, .table inner) :: ms.filter (fun m => isTable m.2)) =
              o ++ [(key, nodeOf (.table inner))] ++ outlineOf (ms.filter (fun m => isTable m.2)) := by
            rw [List.append_assoc]
            rfl
          rw [kept, split] at keys ⊢
          have absent := Outline.notMem_of_nodup keys
          rcases inductionHypothesis others keys [key] with ⟨last, later⟩
          exact ⟨last, .writtenTable absent distinct plain later⟩

end

/-! ## Documents -/

/-- Members in the order in which they are written: the tables come last. -/
def tablesLast (ms : Members) : Members :=
  ms.filter (fun m => !isTable m.2) ++ ms.filter (fun m => isTable m.2)

theorem tablesLast_perm (ms : Members) : (tablesLast ms).Perm ms :=
  (List.perm_append_comm).trans (List.filter_append_perm _ ms)

/-- The members that a document can have. -/
structure Storable (ms : Members) : Prop where
  keys : (ms.map Prod.fst).Nodup
  each : ∀ m ∈ ms, Writable m.2

/-- What is written is a list of lines and a list of tables. -/
theorem toList_render (style : Style) (ms : Members) :
    (render style ms).toList =
      (ms.filter (fun m => !isTable m.2)).flatMap (memberLine style) ++
        ms.flatMap (tableOf style) := by
  rw [render, String.toList_ofList]
  rfl

/-- No document starts with the mark for its encoding. -/
theorem head?_render (style : Style) (ms : Members) :
    (render style ms).toList.head? ≠ some '\uFEFF' := by
  intro same
  rw [toList_render, List.head?_append, Option.or_eq_some_iff, List.head?_flatMap,
    List.head?_flatMap] at same
  rcases same with line | ⟨_, table⟩
  · rcases List.exists_of_findSome?_eq_some line with ⟨m, _, first⟩
    rcases exists_key_eq_cons m.1 with ⟨c, text, form, _, _, mark⟩
    simp only [memberLine, form, List.cons_append, List.head?_cons] at first
    exact mark (Option.some.inj first)
  · rcases List.exists_of_findSome?_eq_some table with ⟨⟨key, v⟩, _, first⟩
    cases v with
    | table inner => exact absurd (Option.some.inj first) (by decide)
    | _ => cases first

/-- A document is read back with its tables behind its other members. -/
theorem read?_render {ms : Members} (storable : Storable ms) (style : Style) :
    read? (render style ms) = some (tablesLast ms) := by
  let lines := ms.filter (fun m => !isTable m.2)
  let tables := ms.filter (fun m => isTable m.2)
  have plain : ∀ m ∈ lines, Plain (depthBound - 1) m.2 := by
    intro m listed
    rcases List.mem_filter.mp listed with ⟨listed, line⟩
    rcases m with ⟨key, v⟩
    cases storable.each _ listed with
    | line plain => exact plain
    | table => cases line
  have keys : ((tablesLast ms).map Prod.fst).Nodup :=
    ((tablesLast_perm ms).map Prod.fst).nodup_iff.mpr storable.keys
  have front : (([] ++ ofLines lines).map Prod.fst).Nodup := by
    rw [tablesLast, List.map_append, List.nodup_append] at keys
    rw [List.nil_append, Outline.keys_ofLines]
    exact keys.1
  have whole : ((ofLines lines ++ outlineOf tables).map Prod.fst).Nodup := by
    rw [List.map_append, Outline.keys_ofLines, keys_outlineOf, ← List.map_append]
    exact keys
  rcases @exists_readsAs_tables style _ _ storable.each whole [] with ⟨last, behind⟩
  have all : ReadsAs ⟨[], []⟩ (render style ms).toList ⟨ofLines lines ++ outlineOf tables, last⟩ := by
    rw [toList_render]
    exact ReadsAs.memberLines Outline.opened_nil plain front behind
  have read := all _ (Nat.lt_succ_self _)
  unfold read?
  split
  · rename_i rest marked
    exact absurd (congrArg List.head? marked) (head?_render style ms)
  · change (readLines? (_ + 1) _ _ >>= _) = _
    rw [read, Option.bind_eq_bind, Option.bind_some, Outline.toMembers_append,
      Outline.toMembers_ofLines, toMembers_outlineOf]
    rfl

end Toml
end HostLink
