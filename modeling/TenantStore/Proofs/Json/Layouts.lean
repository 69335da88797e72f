import TenantStore.Proofs.Json.Tokens

namespace TenantStore.Json

/-!
# Written documents read back

A layout decides which blanks stand between the tokens of a document. Whatever
blanks they are, the reader gets back what was written: `Reads` says so for a
value and `ReadsItems` and `ReadsMembers` for what stands between brackets, and
each is built up token by token. A value takes at least one character, so the
characters are fuel enough.
-/

open Text (Glyph)

/-! ## Blanks -/

/-- Characters that may stand between tokens. -/
def Blank (chars : List Char) : Prop :=
  ∀ char ∈ chars, isGap (some char) = true

/-- Nothing is a gap. -/
theorem blank_nil : Blank [] := by
  simp [Blank]

/-- A gap is skipped. -/
theorem skipGaps_blank {gap : List Char} (blank : Blank gap) (rest : List Glyph) :
    skipGaps (glyphs gap ++ rest) = skipGaps rest := by
  induction gap with
  | nil => rfl
  | cons head tail inductionHypothesis =>
      have headBlank : isGap (some head) = true := blank head List.mem_cons_self
      rw [glyphs_cons, List.cons_append, skipGaps,
        List.dropWhile_cons_of_pos headBlank]
      exact inductionHypothesis (fun char member =>
        blank char (List.mem_cons_of_mem _ member))

/-- Nothing is skipped in front of a character that is no blank. -/
theorem skipGaps_token
    {char : Char}
    (token : isGap (some char) = false)
    (rest : List Glyph) :
    skipGaps (some char :: rest) = some char :: rest := by
  rw [skipGaps, List.dropWhile_cons_of_neg (by simp [token])]

/-- Blanks, and any other characters that no number contains, end a number. -/
theorem stops_blank
    {gap : List Char}
    (blank : Blank gap)
    {rest : List Glyph}
    (stops : Stops rest) :
    Stops (glyphs gap ++ rest) := by
  cases gap with
  | nil => exact stops
  | cons head tail =>
      have headBlank : isGap (some head) = true := blank head List.mem_cons_self
      simp only [isGap, Bool.or_eq_true, decide_eq_true_eq] at headBlank
      rcases headBlank with ((rfl | rfl) | rfl) | rfl <;>
        exact ⟨by decide, by decide, by decide, by decide⟩

/-- Leading blanks make no difference to a value. -/
theorem readValue_blank
    {gap : List Char}
    (blank : Blank gap)
    (fuel : Nat)
    (rest : List Glyph) :
    readValue fuel (glyphs gap ++ rest) = readValue fuel rest := by
  cases fuel with
  | zero => simp only [readValue]
  | succ fuel => rw [readValue, readValue, skipGaps_blank blank]

/-! ## Values -/

/-- The characters of a value start with a token that closes nothing. -/
def StartsValue (chars : List Char) : Prop :=
  ∃ first rest,
    chars = first :: rest ∧ isGap (some first) = false ∧ first ≠ ']'

/-- Whatever follows, the characters are read as the document. -/
structure Reads (json : Json) (chars : List Char) : Prop where
  starts : StartsValue chars
  reads : ∀ {fuel rest},
    chars.length ≤ fuel → Stops rest →
      readValue fuel (glyphs chars ++ rest) = some (json, rest)

/-- No document is read from nothing. -/
theorem Reads.length_pos {json : Json} {chars : List Char} (reads : Reads json chars) :
    0 < chars.length := by
  obtain ⟨first, rest, rfl, _⟩ := reads.starts
  simp

/-- A reader needs fuel, because what it reads starts with a token. -/
theorem Reads.of_succ
    {json : Json}
    {chars : List Char}
    (starts : StartsValue chars)
    (reads : ∀ {fuel rest},
      chars.length ≤ fuel + 1 → Stops rest →
        readValue (fuel + 1) (glyphs chars ++ rest) = some (json, rest)) :
    Reads json chars where
  starts := starts
  reads := by
    intro fuel rest enough stops
    obtain ⟨first, others, rfl, _⟩ := starts
    cases fuel with
    | zero => cases enough
    | succ fuel => exact reads enough stops

/-- The word for null is read. -/
theorem reads_null : Reads .null "null".toList :=
  .of_succ ⟨'n', "ull".toList, rfl, by decide, by decide⟩ (fun _ _ => rfl)

/-- The word for true is read. -/
theorem reads_true : Reads (.bool true) "true".toList :=
  .of_succ ⟨'t', "rue".toList, rfl, by decide, by decide⟩ (fun _ _ => rfl)

/-- The word for false is read. -/
theorem reads_false : Reads (.bool false) "false".toList :=
  .of_succ ⟨'f', "alse".toList, rfl, by decide, by decide⟩ (fun _ _ => rfl)

/-- Behind a quote the reader of values takes a text. -/
theorem readValue_quote (fuel : Nat) (rest : List Glyph) :
    readValue (fuel + 1) (some '"' :: rest) = (do
      let (text, rest) ← readText rest
      some (.string text, rest)) := by
  rw [readValue, skipGaps_token (by decide)]
  rfl

/-- A text is read back with everything that was escaped in it. -/
theorem reads_text (text : String) : Reads (.text text) (writeText (some text)) := by
  refine .of_succ ⟨'"', _, rfl, by decide, by decide⟩ ?_
  intro fuel rest _ _
  rw [writeText, Option.getD_some, List.cons_append, glyphs_cons,
    glyphs_append, List.cons_append, List.append_assoc, readValue_quote,
    glyphs_cons, glyphs_nil, List.cons_append, List.nil_append, readText_written]
  rfl

/-- What an integer starts with. -/
def Numeric (char : Char) : Prop :=
  char.isDigit = true ∨ char = '-'

instance (char : Char) : Decidable (Numeric char) :=
  inferInstanceAs (Decidable (_ ∨ _))

/-- A character that begins a number is none that begins something else. -/
theorem Numeric.ne
    {first other : Char}
    (numeric : Numeric first)
    (unlike : ¬Numeric other) :
    first ≠ other := by
  rintro rfl
  exact unlike numeric

/-- A character that begins a number is no gap. -/
theorem Numeric.isToken {first : Char} (numeric : Numeric first) :
    isGap (some first) = false := by
  simp only [isGap, Bool.or_eq_false_iff, decide_eq_false_iff_not]
  exact ⟨⟨⟨numeric.ne (by decide), numeric.ne (by decide)⟩,
    numeric.ne (by decide)⟩, numeric.ne (by decide)⟩

/-- An integer is written with a digit or a sign in front. -/
theorem numeric_head_integer (value : Int) :
    ∃ first rest,
      writeNumeral (.integer value) = first :: rest ∧ Numeric first := by
  cases value with
  | ofNat number =>
      cases digits : Text.decimal number with
      | nil => exact absurd digits (Text.decimal_ne_nil number)
      | cons head tail =>
          exact ⟨head, tail, digits,
            .inl (Text.isDigit_of_mem_decimal (digits ▸ List.mem_cons_self))⟩
  | negSucc number => exact ⟨'-', _, rfl, .inr rfl⟩

/-- A value that starts like a number is read as one. -/
theorem readValue_numeric
    {first : Char}
    (numeric : Numeric first)
    (fuel : Nat)
    (rest : List Glyph) :
    readValue (fuel + 1) (some first :: rest) = readNumber (some first :: rest) := by
  have otherHead : ∀ {char : Char} {tail : List Glyph}, ¬Numeric char →
      some first :: rest ≠ some char :: tail := by
    intro char tail unlike same
    exact numeric.ne unlike (Option.some.inj (List.cons.inj same).1)
  rw [readValue, skipGaps_token numeric.isToken]
  -- No value but a number starts like a number.
  split
  case h_7 => rfl
  all_goals
    rename_i same
    exact absurd same (otherHead (by decide))

/-- An integer is read back. -/
theorem reads_int (value : Int) :
    Reads (.int value) (writeNumeral (.integer value)) := by
  obtain ⟨first, tail, shape, numeric⟩ := numeric_head_integer value
  refine .of_succ ⟨first, tail, shape, numeric.isToken, numeric.ne (by decide)⟩ ?_
  intro fuel rest _ stops
  have read := readNumber_integer value stops
  rw [shape] at read ⊢
  rw [glyphs_cons, List.cons_append] at read ⊢
  rw [readValue_numeric numeric, read]

/-! ## Arrays -/

/-- The characters up to the closing bracket are read as the items. -/
structure ReadsItems (items : List Json) (chars : List Char) : Prop where
  /-- The first token closes no bracket. -/
  opens : ∀ rest, ∀ tail, skipGaps (glyphs chars ++ rest) ≠ some ']' :: tail
  reads : ∀ {fuel rest},
    chars.length ≤ fuel →
      readItems fuel (glyphs chars ++ rest) = some (items, rest)

/-- A value is the first token behind blanks, and it closes no bracket. -/
theorem StartsValue.opens
    {chars : List Char}
    (starts : StartsValue chars)
    {gap : List Char}
    (blank : Blank gap)
    (rest tail : List Glyph) :
    skipGaps (glyphs (gap ++ chars) ++ rest) ≠ some ']' :: tail := by
  obtain ⟨first, others, rfl, token, opens⟩ := starts
  rw [glyphs_append, List.append_assoc, skipGaps_blank blank, glyphs_cons,
    List.cons_append, skipGaps_token token]
  intro same
  exact opens (Option.some.inj (List.cons.inj same).1)

/-- The reader of items takes a value, and looks what follows. -/
theorem readItems_item
    {item : Json}
    {chars before : List Char}
    (reads : Reads item chars)
    (blankBefore : Blank before)
    {fuel : Nat}
    (enough : chars.length ≤ fuel)
    {rest : List Glyph}
    (stops : Stops rest) :
    readItems (fuel + 1) (glyphs (before ++ chars) ++ rest) =
      match skipGaps rest with
      | some ']' :: rest => some ([item], rest)
      | some ',' :: rest => do
          let (items, rest) ← readItems fuel rest
          some (item :: items, rest)
      | _ => none := by
  rw [readItems, glyphs_append, List.append_assoc, readValue_blank blankBefore,
    reads.reads enough stops]
  rfl

/-- The last item, and the bracket behind it. -/
theorem readsItems_last
    {item : Json}
    {chars before after : List Char}
    (reads : Reads item chars)
    (blankBefore : Blank before)
    (blankAfter : Blank after) :
    ReadsItems [item] (before ++ chars ++ (after ++ [']'])) where
  opens rest tail := by
    rw [glyphs_append, List.append_assoc]
    exact reads.starts.opens blankBefore _ tail
  reads := by
    intro fuel rest enough
    have positive := reads.length_pos
    simp only [List.length_append, List.length_cons, List.length_nil] at enough
    cases fuel with
    | zero => omega
    | succ fuel =>
        have enoughForItem : chars.length ≤ fuel := by omega
        have bracket : Stops (glyphs [']'] ++ rest) :=
          ⟨by decide, by decide, by decide, by decide⟩
        have stops : Stops (glyphs (after ++ [']']) ++ rest) := by
          rw [glyphs_append, List.append_assoc]
          exact stops_blank blankAfter bracket
        rw [glyphs_append, List.append_assoc,
          readItems_item reads blankBefore enoughForItem stops, glyphs_append,
          List.append_assoc, skipGaps_blank blankAfter]
        rfl

/-- One more item in front of others, and the comma behind it. -/
theorem readsItems_cons
    {item : Json}
    {items : List Json}
    {chars before others : List Char}
    (reads : Reads item chars)
    (blankBefore : Blank before)
    (readsOthers : ReadsItems items others) :
    ReadsItems (item :: items) (before ++ chars ++ ',' :: others) where
  opens rest tail := by
    rw [glyphs_append, List.append_assoc]
    exact reads.starts.opens blankBefore _ tail
  reads := by
    intro fuel rest enough
    have positive := reads.length_pos
    simp only [List.length_append, List.length_cons] at enough
    cases fuel with
    | zero => omega
    | succ fuel =>
        have enoughForItem : chars.length ≤ fuel := by omega
        have comma : Stops (glyphs (',' :: others) ++ rest) :=
          ⟨by decide, by decide, by decide, by decide⟩
        rw [glyphs_append, List.append_assoc,
          readItems_item reads blankBefore enoughForItem comma, glyphs_cons,
          List.cons_append, skipGaps_token (by decide)]
        show (do
          let (items, rest) ← readItems fuel (glyphs others ++ rest)
          some (item :: items, rest)) = _
        rw [readsOthers.reads (by omega)]
        rfl

theorem reads_array_nil : Reads (.array []) ['[', ']'] :=
  .of_succ ⟨'[', [']'], rfl, by decide, by decide⟩ (fun _ _ => rfl)

/-- Behind a bracket the reader of values takes items, unless it closes at once. -/
theorem readValue_bracket (fuel : Nat) (rest : List Glyph) :
    readValue (fuel + 1) (some '[' :: rest) =
      (match skipGaps rest with
      | some ']' :: rest => some (.array [], rest)
      | _ => do
          let (items, rest) ← readItems fuel rest
          some (.array items, rest)) := by
  rw [readValue, skipGaps_token (by decide)]
  rfl

/-- A list is read from a bracket and its items. -/
theorem ReadsItems.array
    {items : List Json}
    {chars : List Char}
    (readsAll : ReadsItems items chars) :
    Reads (.array items) ('[' :: chars) := by
  refine .of_succ ⟨'[', chars, rfl, by decide, by decide⟩ ?_
  intro fuel rest enough _
  rw [glyphs_cons, List.cons_append, readValue_bracket]
  split
  · rename_i closes
    exact absurd closes (readsAll.opens rest _)
  · rw [readsAll.reads (Nat.le_of_succ_le_succ enough)]
    rfl

/-! ## Objects -/

/-- The characters up to the closing brace are read as the members. -/
structure ReadsMembers
    (members : List (Option String × Json))
    (chars : List Char) : Prop where
  /-- The first token closes no brace. -/
  opens : ∀ rest tail, skipGaps (glyphs chars ++ rest) ≠ some '\x7d' :: tail
  reads : ∀ {fuel rest},
    chars.length ≤ fuel →
      readMembers fuel (glyphs chars ++ rest) = some (members, rest)

/-- The characters of a key and its value. -/
def memberChars (key : String) (between value : List Char) : List Char :=
  writeText (some key) ++ ':' :: (between ++ value)

/-- A member is not taken for the end of its object. -/
theorem memberChars_opens
    {gap : List Char}
    (blank : Blank gap)
    (key : String)
    (between value others : List Char)
    (rest tail : List Glyph) :
    skipGaps (glyphs (gap ++ memberChars key between value ++ others) ++ rest) ≠
      some '\x7d' :: tail := by
  simp only [glyphs_append, List.append_assoc, skipGaps_blank blank]
  simp only [memberChars, writeText, List.cons_append, glyphs_cons,
    skipGaps_token (show isGap (some '"') = false by decide)]
  intro same
  exact absurd (Option.some.inj (List.cons.inj same).1) (by decide)

/-- The reader of members takes a key and its value, and looks what follows. -/
theorem readMembers_member
    {value : Json}
    {chars before between : List Char}
    (reads : Reads value chars)
    (blankBefore : Blank before)
    (blankBetween : Blank between)
    (key : String)
    {fuel : Nat}
    (enough : chars.length ≤ fuel)
    {rest : List Glyph}
    (stops : Stops rest) :
    readMembers (fuel + 1)
        (glyphs (before ++ memberChars key between chars) ++ rest) =
      match skipGaps rest with
      | some '\x7d' :: rest => some ([(some key, value)], rest)
      | some ',' :: rest => do
          let (members, rest) ← readMembers fuel rest
          some ((some key, value) :: members, rest)
      | _ => none := by
  rw [readMembers]
  simp only [glyphs_append, List.append_assoc, skipGaps_blank blankBefore]
  simp only [memberChars, writeText, Option.getD_some, List.cons_append,
    glyphs_cons, glyphs_append, List.append_assoc, List.nil_append,
    skipGaps_token (show isGap (some '"') = false by decide)]
  rw [readText_written]
  simp only [Option.bind_eq_bind, Option.bind_some,
    skipGaps_token (show isGap (some ':') = false by decide)]
  rw [readValue_blank blankBetween, reads.reads enough stops]
  rfl

/-- The last member, and the brace behind it. -/
theorem readsMembers_last
    {value : Json}
    {chars before between after : List Char}
    (reads : Reads value chars)
    (blankBefore : Blank before)
    (blankBetween : Blank between)
    (blankAfter : Blank after)
    (key : String) :
    ReadsMembers [(some key, value)]
      (before ++ memberChars key between chars ++ (after ++ ['\x7d'])) where
  opens rest tail :=
    memberChars_opens blankBefore key between chars (after ++ ['\x7d']) rest tail
  reads := by
    intro fuel rest enough
    simp only [memberChars, List.length_append, List.length_cons,
      List.length_nil] at enough
    cases fuel with
    | zero => omega
    | succ fuel =>
        have enoughForValue : chars.length ≤ fuel := by omega
        have brace : Stops (glyphs ['\x7d'] ++ rest) :=
          ⟨by decide, by decide, by decide, by decide⟩
        have stops : Stops (glyphs (after ++ ['\x7d']) ++ rest) := by
          rw [glyphs_append, List.append_assoc]
          exact stops_blank blankAfter brace
        rw [glyphs_append, List.append_assoc,
          readMembers_member reads blankBefore blankBetween key enoughForValue stops,
          glyphs_append, List.append_assoc, skipGaps_blank blankAfter]
        rfl

/-- One more member in front of others, and the comma behind it. -/
theorem readsMembers_cons
    {value : Json}
    {members : List (Option String × Json)}
    {chars before between others : List Char}
    (reads : Reads value chars)
    (blankBefore : Blank before)
    (blankBetween : Blank between)
    (readsOthers : ReadsMembers members others)
    (key : String) :
    ReadsMembers ((some key, value) :: members)
      (before ++ memberChars key between chars ++ ',' :: others) where
  opens rest tail :=
    memberChars_opens blankBefore key between chars (',' :: others) rest tail
  reads := by
    intro fuel rest enough
    simp only [memberChars, List.length_append, List.length_cons] at enough
    cases fuel with
    | zero => omega
    | succ fuel =>
        have enoughForValue : chars.length ≤ fuel := by omega
        have comma : Stops (glyphs (',' :: others) ++ rest) :=
          ⟨by decide, by decide, by decide, by decide⟩
        rw [glyphs_append, List.append_assoc,
          readMembers_member reads blankBefore blankBetween key enoughForValue comma,
          glyphs_cons, List.cons_append, skipGaps_token (by decide)]
        show (do
          let (members, rest) ← readMembers fuel (glyphs others ++ rest)
          some ((some key, value) :: members, rest)) = _
        rw [readsOthers.reads (by omega)]
        rfl

theorem reads_object_nil : Reads (.object []) ['\x7b', '\x7d'] :=
  .of_succ ⟨'\x7b', ['\x7d'], rfl, by decide, by decide⟩ (fun _ _ => rfl)

/-- Behind a brace the reader of values takes members, unless it closes at once. -/
theorem readValue_brace (fuel : Nat) (rest : List Glyph) :
    readValue (fuel + 1) (some '\x7b' :: rest) =
      (match skipGaps rest with
      | some '\x7d' :: rest => some (.object [], rest)
      | _ => do
          let (members, rest) ← readMembers fuel rest
          some (.object members, rest)) := by
  rw [readValue, skipGaps_token (by decide)]
  rfl

/-- An object is read from a brace and its members. -/
theorem ReadsMembers.object
    {members : List (Option String × Json)}
    {chars : List Char}
    (readsAll : ReadsMembers members chars) :
    Reads (.object members) ('\x7b' :: chars) := by
  refine .of_succ ⟨'\x7b', chars, rfl, by decide, by decide⟩ ?_
  intro fuel rest enough _
  rw [glyphs_cons, List.cons_append, readValue_brace]
  split
  · rename_i closes
    exact absurd closes (readsAll.opens rest _)
  · rw [readsAll.reads (Nat.le_of_succ_le_succ enough)]
    rfl

/-! ## Whole documents -/

/-- A document that is read with anything behind it is read on its own. -/
theorem Reads.parse
    {json : Json}
    {chars : List Char}
    (reads : Reads json chars) :
    parse? (glyphs chars) = some json := by
  have enough : chars.length ≤ 2 * (glyphs chars).length + 2 := by
    simp only [glyphs, List.length_map]
    omega
  have read := reads.reads enough (show Stops [] from trivial)
  rw [List.append_nil] at read
  rw [parse?, read]
  rfl

end TenantStore.Json
