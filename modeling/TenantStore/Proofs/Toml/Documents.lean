import TenantStore.Proofs.Toml.Values

namespace TenantStore.Toml

/-!
# Documents of plain tables

A document that lists tables under headers of their own, with one line for each
value, is read as those tables (`parse?_document`), provided that the keys need no
quotes and that none of them is repeated.
-/

/-! ## Lines and headers -/

/-- Whether a key can be written without quotes. -/
def isBare (key : String) : Bool :=
  !key.toList.isEmpty && key.toList.all isKeyChar

/-- A line that gives a value to a key, with the spelling of the value. -/
structure Assignment where
  key : String
  spelling : List Char
  value : Toml

namespace Assignment

/-- The characters of a line. -/
def chars (assignment : Assignment) : List Char :=
  assignment.key.toList ++ " = ".toList ++ assignment.spelling ++ ['\n']

/-- What a line says. -/
def line (assignment : Assignment) : Line where
  path := []
  key := assignment.key
  value := assignment.value

/-- Whether a line can be read back. -/
structure IsReadable (assignment : Assignment) : Prop where
  bare : isBare assignment.key = true
  spells : Spells assignment.spelling assignment.value

end Assignment

/-- What can stand on a line of its own. -/
inductive Item where
  | blank
  | header (key : String)
  | line (assignment : Assignment)

namespace Item

/-- The characters of an item, up to the end of its line. -/
def chars : Item → List Char
  | .blank => ['\n']
  | .header key => '[' :: key.toList ++ [']', '\n']
  | .line assignment => assignment.chars

/-- Whether an item can be read back. -/
def IsReadable : Item → Prop
  | .blank => True
  | .header key => isBare key = true
  | .line assignment => assignment.IsReadable

/-- An outline with an item before it. -/
def addTo : Item → Outline → Outline
  | .blank => id
  | .header key => Outline.addHeader { path := [], key := key, repeats := false }
  | .line assignment => Outline.addLine assignment.line

end Item

/-! ## Reading keys -/

/-- A character of a key is none that ends it. -/
theorem ne_of_isKeyChar
    {char other : Char}
    (isKey : isKeyChar char = true)
    (noKey : isKeyChar other = false) :
    char ≠ other := by
  rintro rfl
  rw [isKey] at noKey
  cases noKey

/-- A character of a key is no gap. -/
theorem isGap_of_isKeyChar {char : Char} (isKey : isKeyChar char = true) :
    isGap char = false := by
  simp only [isGap, Bool.or_eq_false_iff, decide_eq_false_iff_not]
  exact ⟨ne_of_isKeyChar isKey (by decide), ne_of_isKeyChar isKey (by decide)⟩

section Keys

variable {key : String} (bare : isBare key = true)

include bare

/-- A bare key begins with a character that may stand in it. -/
theorem isBare_cons : ∃ char chars, key.toList = char :: chars ∧ isKeyChar char = true := by
  simp only [isBare, Bool.and_eq_true, Bool.not_eq_true', List.all_eq_true] at bare
  cases chars_eq : key.toList with
  | nil => simp [chars_eq] at bare
  | cons char chars => exact ⟨char, chars, rfl, bare.2 char (chars_eq ▸ List.mem_cons_self)⟩

variable {rest : List Char} (ends : ∀ char, rest.head? = some char → isKeyChar char = false)

include ends

/-- A bare key is taken up to what is not of a key. -/
theorem span_bare :
    (key.toList ++ rest).takeWhile isKeyChar = key.toList ∧
      (key.toList ++ rest).dropWhile isKeyChar = rest := by
  have usable : ∀ char ∈ key.toList, isKeyChar char = true := by
    simp only [isBare, Bool.and_eq_true, List.all_eq_true] at bare
    exact bare.2
  rw [List.takeWhile_append_of_pos usable, List.dropWhile_append_of_pos usable]
  cases rest with
  | nil => simp
  | cons char others => simp [ends char rfl]

/-- A bare key is read. -/
theorem readKeyPart_bare : readKeyPart (key.toList ++ rest) = some (key, rest) := by
  obtain ⟨taken, dropped⟩ := span_bare bare ends
  obtain ⟨char, chars, chars_eq, isKey⟩ := isBare_cons bare
  unfold readKeyPart
  split
  · rename_i same
    rw [chars_eq] at same
    exact absurd (List.cons.inj same).1 (ne_of_isKeyChar isKey (by decide))
  · rename_i same
    rw [chars_eq] at same
    exact absurd (List.cons.inj same).1 (ne_of_isKeyChar isKey (by decide))
  · rw [taken, dropped]
    split
    · rename_i empty
      rw [chars_eq] at empty
      cases empty
    · rw [String.ofList_toList]

/-- A bare key is read as itself, with the blanks behind it. -/
theorem readKey_bare (noDot : (skipGaps rest).head? ≠ some '.') :
    readKey (key.toList ++ rest) = some ([], key, skipGaps rest) := by
  obtain ⟨char, chars, chars_eq, isKey⟩ := isBare_cons bare
  have noGap : skipGaps (key.toList ++ rest) = key.toList ++ rest := by
    rw [chars_eq, List.cons_append, skipGaps,
      List.dropWhile_cons_of_neg (by simp [isGap_of_isKeyChar isKey])]
  have parts : readKeyParts maxDepth (key.toList ++ rest) = some ([key], skipGaps rest) := by
    rw [maxDepth, readKeyParts, noGap, readKeyPart_bare bare ends]
    simp only [Option.bind_eq_bind, Option.bind_some]
    split
    · rename_i dot
      simp [dot] at noDot
    · rfl
  rw [readKey, parts]
  rfl

end Keys

/-! ## Reading items -/

/-- A line is read back with its value. -/
theorem readLine_assignment
    {assignment : Assignment}
    (readable : assignment.IsReadable)
    (rest : List Char) :
    readLine (assignment.chars ++ rest) = some (assignment.line, rest) := by
  have chars_eq : assignment.chars ++ rest =
      assignment.key.toList ++ (' ' :: '=' :: ' ' :: (assignment.spelling ++ '\n' :: rest)) := by
    simp [Assignment.chars]
  have noGap : skipGaps (' ' :: (assignment.spelling ++ '\n' :: rest)) =
      assignment.spelling ++ '\n' :: rest := by
    have starts := readable.spells.starts
    rw [skipGaps, List.dropWhile_cons_of_pos (by decide)]
    cases spelling : assignment.spelling with
    | nil => rfl
    | cons char others =>
        rw [spelling] at starts
        rw [List.cons_append, List.dropWhile_cons_of_neg (by simp [starts char rfl])]
  rw [readLine, chars_eq, readKey_bare readable.bare (by simp [isKeyChar])
    (by simp [skipGaps, isGap])]
  have gap : skipGaps (' ' :: '=' :: ' ' :: (assignment.spelling ++ '\n' :: rest)) =
      '=' :: ' ' :: (assignment.spelling ++ '\n' :: rest) := rfl
  simp only [gap, after?, Option.bind_eq_bind, Option.bind_some, if_true, noGap,
    readable.spells.reads, Nat.add_succ]
  rfl

/-- A header is read back up to the end of its line. -/
theorem readHeader_bare {key : String} (bare : isBare key = true) (rest : List Char) :
    readHeader (key.toList ++ ']' :: '\n' :: rest) =
      some ({ path := [], key := key, repeats := false }, rest) := by
  obtain ⟨char, chars, chars_eq, isKey⟩ := isBare_cons bare
  unfold readHeader
  split
  · rename_i same
    rw [chars_eq] at same
    exact absurd (List.cons.inj same).1 (ne_of_isKeyChar isKey (by decide))
  · rw [readKey_bare bare (by simp [isKeyChar]) (by simp [skipGaps, isGap])]
    rfl

/-- An item is read before what follows it. -/
theorem readOutline_item
    {item : Item}
    (readable : item.IsReadable)
    (fuel : Nat)
    (rest : List Char) :
    readOutline (fuel + 1) (item.chars ++ rest) = (readOutline fuel rest).map item.addTo := by
  cases item with
  | blank =>
      rw [Item.chars, List.singleton_append, readOutline]
      simp [skipGaps, isGap, skipLineEnd, afterLineEnd?, Item.addTo]
  | header key =>
      have chars_eq : (Item.header key).chars ++ rest =
          '[' :: (key.toList ++ ']' :: '\n' :: rest) := by
        simp [Item.chars]
      have noGap : skipGaps ('[' :: (key.toList ++ ']' :: '\n' :: rest)) =
          '[' :: (key.toList ++ ']' :: '\n' :: rest) := rfl
      rw [chars_eq, readOutline, noGap]
      simp only [readHeader_bare readable, Option.bind_eq_bind, Option.bind_some]
      cases readOutline fuel rest <;> rfl
  | line assignment =>
      obtain ⟨char, others, key_eq, isKey⟩ := isBare_cons readable.bare
      have read := readLine_assignment readable rest
      obtain ⟨tail, chars_eq⟩ : ∃ tail, assignment.chars ++ rest = char :: tail := by
        simp [Assignment.chars, key_eq]
      have noGap : skipGaps (char :: tail) = char :: tail := by
        rw [skipGaps, List.dropWhile_cons_of_neg (by simp [isGap_of_isKeyChar isKey])]
      rw [chars_eq] at read
      rw [Item.chars, chars_eq, readOutline, noGap]
      split
      · rename_i same
        cases same
      · rename_i same
        exact absurd (List.cons.inj same).1 (ne_of_isKeyChar isKey (by decide))
      · split
        · rename_i same
          exact absurd (Option.some.inj same) (ne_of_isKeyChar isKey (by decide))
        · rename_i same
          exact absurd (Option.some.inj same) (ne_of_isKeyChar isKey (by decide))
        · rename_i same
          exact absurd (Option.some.inj same) (ne_of_isKeyChar isKey (by decide))
        · simp only [read, Option.bind_eq_bind, Option.bind_some, Option.map_eq_bind]
          rfl

/-- Items are read one after the other. -/
theorem readOutline_items
    {items : List Item}
    (readable : ∀ item ∈ items, item.IsReadable)
    {fuel : Nat}
    (enough : items.length < fuel) :
    readOutline fuel (items.flatMap Item.chars) =
      some (items.foldr Item.addTo { lines := [], sections := [] }) := by
  induction items generalizing fuel with
  | nil =>
      obtain ⟨fuel, rfl⟩ := Nat.exists_eq_succ_of_ne_zero (Nat.ne_of_gt enough)
      rfl
  | cons item others inductionHypothesis =>
      obtain ⟨fuel, rfl⟩ := Nat.exists_eq_succ_of_ne_zero (Nat.ne_of_gt (Nat.zero_lt_of_lt enough))
      obtain ⟨itemReadable, othersReadable⟩ := List.forall_mem_cons.mp readable
      rw [List.flatMap_cons, readOutline_item itemReadable,
        inductionHypothesis othersReadable (Nat.lt_of_succ_lt_succ enough)]
      rfl

/-! ## Building tables -/

/-- What a line puts into its table. -/
def Assignment.entry (assignment : Assignment) : String × Toml :=
  (assignment.key, assignment.value)

/-- A key that is not in a table can be added to it. -/
theorem lookup_of_not_mem {key : String} {entries : Entries}
    (missing : key ∉ entries.map Prod.fst) :
    entries.lookup key = none := by
  rw [List.lookup_eq_none_iff]
  intro entry member
  simp only [bne_iff_ne, ne_eq]
  rintro rfl
  exact missing (List.mem_map_of_mem member)

/-- An entry with a new key is added behind the others. -/
theorem setEntry_of_not_mem {key : String} {entries : Entries}
    (missing : key ∉ entries.map Prod.fst)
    (value : Toml) :
    setEntry key value entries = entries ++ [(key, value)] := by
  induction entries with
  | nil => rfl
  | cons entry others inductionHypothesis =>
      simp only [List.map_cons, List.mem_cons, not_or] at missing
      rw [setEntry, if_neg (Ne.symm missing.1), inductionHypothesis missing.2]
      rfl

/-- Lines with different keys are added one after the other. -/
theorem addLines_distinct
    (origin : TableOrigin)
    (assignments : List Assignment)
    (entries : Entries)
    (distinct : (entries.map Prod.fst ++ assignments.map Assignment.key).Nodup) :
    addLines origin entries (assignments.map Assignment.line) =
      some (entries ++ assignments.map Assignment.entry) := by
  induction assignments generalizing entries with
  | nil => simp [addLines]
  | cons assignment others inductionHypothesis =>
      have missing : assignment.key ∉ entries.map Prod.fst := by
        rw [List.map_cons, List.nodup_append] at distinct
        exact fun member => distinct.2.2 _ member _ List.mem_cons_self rfl
      have added : addLine origin entries assignment.line =
          some (entries ++ [assignment.entry]) := by
        simp [addLine, changeAt, Assignment.line, addEntry, lookup_of_not_mem missing,
          Assignment.entry]
      have next := inductionHypothesis (entries ++ [assignment.entry])
        (by simpa [Assignment.entry] using distinct)
      rw [addLines] at next ⊢
      rw [List.map_cons, List.foldlM_cons, added]
      simpa using next

/-- A table with a header of its own. -/
structure PlainTable where
  key : String
  lines : List Assignment

namespace PlainTable

/-- The items of a table. -/
def items (table : PlainTable) : List Item :=
  .header table.key :: table.lines.map .line

/-- The items of a document, with a blank line before each table but the first. -/
def document : List PlainTable → List Item
  | [] => []
  | first :: others => first.items ++ others.flatMap (fun table => .blank :: table.items)

/-- What a table becomes in the document. -/
def entry (table : PlainTable) : String × Toml :=
  (table.key, .table .header (table.lines.map Assignment.entry))

/-- The lines of a table under its header. -/
def part (table : PlainTable) : Section where
  header := { path := [], key := table.key, repeats := false }
  lines := table.lines.map Assignment.line

/-- Whether a table can be read back: its lines can, and they have different keys. -/
structure IsReadable (table : PlainTable) : Prop where
  bare : isBare table.key = true
  lines : ∀ assignment ∈ table.lines, assignment.IsReadable
  distinct : (table.lines.map Assignment.key).Nodup

/-- A table with a new name is added behind the others. -/
theorem addSection_part
    {table : PlainTable}
    (readable : table.IsReadable)
    {entries : Entries}
    (missing : table.key ∉ entries.map Prod.fst) :
    addSection entries table.part = some (entries ++ [table.entry]) := by
  have added := addLines_distinct .header table.lines []
    (by simpa using readable.distinct)
  simp [addSection, changeAt, part, openTable, lookup_of_not_mem missing, added,
    setEntry_of_not_mem missing, entry]

/-- Tables with different names are added in order. -/
theorem foldlM_addSection
    {tables : List PlainTable}
    (readable : ∀ table ∈ tables, table.IsReadable)
    (entries : Entries)
    (distinct : (entries.map Prod.fst ++ tables.map PlainTable.key).Nodup) :
    (tables.map part).foldlM addSection entries = some (entries ++ tables.map entry) := by
  induction tables generalizing entries with
  | nil => simp
  | cons table others inductionHypothesis =>
      obtain ⟨tableReadable, othersReadable⟩ := List.forall_mem_cons.mp readable
      have missing : table.key ∉ entries.map Prod.fst := by
        rw [List.map_cons, List.nodup_append] at distinct
        exact fun member => distinct.2.2 _ member _ List.mem_cons_self rfl
      have next := inductionHypothesis othersReadable (entries ++ [table.entry])
        (by simpa [entry] using distinct)
      rw [List.map_cons, List.foldlM_cons, addSection_part tableReadable missing]
      simpa using next

/-! ## Documents -/

/-- The outline of some lines, before those of what follows. -/
theorem foldr_lines (assignments : List Assignment) (outline : Outline) :
    (assignments.map Item.line).foldr Item.addTo outline =
      { outline with lines := assignments.map Assignment.line ++ outline.lines } := by
  induction assignments with
  | nil => rfl
  | cons assignment others inductionHypothesis =>
      rw [List.map_cons, List.foldr_cons, inductionHypothesis]
      rfl

/-- The lines of a table are gathered under its header. -/
theorem foldr_items (table : PlainTable) {outline : Outline} (closed : outline.lines = []) :
    table.items.foldr Item.addTo outline =
      { lines := [], sections := table.part :: outline.sections } := by
  rw [items, List.foldr_cons, foldr_lines, closed, List.append_nil]
  rfl

/-- The tables of a document are gathered in order. -/
theorem foldr_document (tables : List PlainTable) :
    (document tables).foldr Item.addTo { lines := [], sections := [] } =
      { lines := [], sections := tables.map part } := by
  have others_eq (others : List PlainTable) :
      (others.flatMap (fun table => .blank :: table.items)).foldr Item.addTo
          { lines := [], sections := [] } =
        { lines := [], sections := others.map part } := by
    induction others with
    | nil => rfl
    | cons table others inductionHypothesis =>
        rw [List.flatMap_cons, List.foldr_append, inductionHypothesis, List.foldr_cons,
          foldr_items table rfl]
        rfl
  cases tables with
  | nil => rfl
  | cons first others =>
      rw [document, List.foldr_append, others_eq, foldr_items first rfl]
      rfl

/-- Every line and header of a document is readable. -/
theorem readable_document
    {tables : List PlainTable}
    (readable : ∀ table ∈ tables, table.IsReadable) :
    ∀ item ∈ document tables, item.IsReadable := by
  have items_readable : ∀ table ∈ tables, ∀ item ∈ table.items, item.IsReadable := by
    intro table member item itemMember
    rcases List.mem_cons.mp itemMember with rfl | lineMember
    · exact (readable table member).bare
    · obtain ⟨assignment, assignmentMember, rfl⟩ := List.mem_map.mp lineMember
      exact (readable table member).lines assignment assignmentMember
  cases tables with
  | nil => simp [document]
  | cons first others =>
      intro item itemMember
      rcases List.mem_append.mp itemMember with inFirst | inOthers
      · exact items_readable first List.mem_cons_self item inFirst
      · obtain ⟨table, member, itemMember⟩ := List.mem_flatMap.mp inOthers
        rcases List.mem_cons.mp itemMember with rfl | inTable
        · trivial
        · exact items_readable table (List.mem_cons_of_mem _ member) item inTable

/-- Each item takes at least one character. -/
theorem length_le_flatMap_chars (items : List Item) :
    items.length ≤ (items.flatMap Item.chars).length := by
  induction items with
  | nil => exact Nat.le_refl 0
  | cons item others inductionHypothesis =>
      have positive : 0 < item.chars.length := by
        cases item with
        | blank => decide
        | header key => simp [Item.chars]
        | line assignment =>
            simp only [Item.chars, Assignment.chars, List.length_append, List.length_singleton]
            omega
      rw [List.flatMap_cons, List.length_append, List.length_cons]
      omega

/-- A document of plain tables is read as these tables. -/
theorem parse?_document
    {tables : List PlainTable}
    (readable : ∀ table ∈ tables, table.IsReadable)
    (distinct : (tables.map key).Nodup)
    {text : String}
    (chars_eq : text.toList = (document tables).flatMap Item.chars) :
    parse? text = some (tables.map entry) := by
  have noMark : skipMark text.toList = text.toList := by
    rw [chars_eq]
    cases tables with
    | nil => rfl
    | cons first others => simp [document, items, Item.chars, skipMark]
  have enough : (document tables).length < text.toList.length + 1 := by
    rw [chars_eq]
    exact Nat.lt_succ_of_le (length_le_flatMap_chars _)
  have outline := readOutline_items (readable_document readable) enough
  rw [← chars_eq, foldr_document] at outline
  have sections := foldlM_addSection readable [] (by simpa using distinct)
  simp [parse?, noMark, outline, ofSections?, addLines, sections]

end PlainTable

end TenantStore.Toml
