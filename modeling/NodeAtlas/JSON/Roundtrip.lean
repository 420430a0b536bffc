import NodeAtlas.JSON.Decode

/-! What was written is read: the decoder's reader gives back the values of which
a text was put together. -/

set_option autoImplicit false

namespace NodeAtlas.JSON

/-! ## Strings -/

private theorem literal_plain {c : UInt8} (tail : GoString) (unescaped : c ≠ 0x5C) (unquoted : c ≠ byte '"') :
    literal (c :: tail) = (c :: (literal tail).1, (literal tail).2) := by
  cases tail with
  | nil => simp [literal, unquoted]
  | cons next rest => simp [literal, unescaped, unquoted]

private theorem literal_escape (c : UInt8) (tail : GoString) :
    literal (0x5C :: c :: tail) = (0x5C :: c :: (literal tail).1, (literal tail).2) := rfl

/-- What stands in a string between its quotes, up to the next byte of its own. -/
def Inside (unit : GoString) : Prop :=
  ∀ tail, literal (unit ++ tail) = (unit ++ (literal tail).1, (literal tail).2)

private theorem Inside.plain {unit : GoString} (plain : ∀ c ∈ unit, c ≠ 0x5C ∧ c ≠ byte '"') : Inside unit := by
  intro tail
  induction unit with
  | nil => rfl
  | cons first rest ih =>
      rw [List.forall_mem_cons] at plain
      rw [List.cons_append, literal_plain _ plain.1.1 plain.1.2, ih plain.2]
      rfl

private theorem Inside.written {unit : GoString} (plain : (unit.all fun c => c ≠ 0x5C && c ≠ byte '"') = true) :
    Inside unit := by
  refine Inside.plain fun c member => ?_
  simpa using List.all_eq_true.mp plain c member

private theorem Inside.escape {c : UInt8} {rest : GoString} (inside : Inside rest) :
    Inside (0x5C :: c :: rest) := by
  intro tail
  rw [List.cons_append, List.cons_append, literal_escape, inside tail]
  rfl

theorem Inside.append {first second : GoString} (former : Inside first) (latter : Inside second) :
    Inside (first ++ second) := by
  intro tail
  rw [List.append_assoc, former, latter, List.append_assoc]

private theorem lowHex_plain (value : Nat) :
    lowHex.getD (value % 16) 0 ≠ 0x5C ∧ lowHex.getD (value % 16) 0 ≠ byte '"' := by
  have every : ∀ digit : Fin 16, lowHex.getD digit.val 0 ≠ 0x5C ∧ lowHex.getD digit.val 0 ≠ byte '"' := by decide
  exact every ⟨value % 16, Nat.mod_lt _ (by decide)⟩

private theorem escapeByte_inside {c : UInt8} (low : c < 0x80) : Inside (escapeByte c) := by
  have empty : Inside [] := Inside.plain nofun
  unfold escapeByte
  split
  · exact empty.escape
  split
  · exact empty.escape
  split
  · exact empty.escape
  split
  · exact empty.escape
  split
  · exact empty.escape
  split
  · exact empty.escape
  split
  · have small : c.toNat / 16 = c.toNat / 16 % 16 := by
      have below : c.toNat < 128 := low
      omega
    rw [small]
    apply Inside.escape
    apply Inside.plain
    have zero : byte '0' ≠ 0x5C ∧ byte '0' ≠ byte '"' := by decide
    simp only [List.forall_mem_cons]
    exact ⟨zero, zero, lowHex_plain _, lowHex_plain _, nofun⟩
  · next special _ _ _ _ _ _ =>
    apply Inside.plain
    intro other member
    obtain rfl := List.mem_singleton.mp member
    have apart : ¬ (other = byte '"' ∨ other = byte '\\') := by simpa using special
    exact ⟨fun same => apart (.inr same), fun same => apart (.inl same)⟩

private theorem escapeRune_inside {rune : GoString} (high : ∀ c ∈ rune, 0x80 ≤ c) : Inside (escapeRune rune) := by
  unfold escapeRune
  split
  · exact Inside.escape (Inside.written (by decide))
  split
  · exact Inside.escape (Inside.written (by decide))
  · refine Inside.plain fun c member => ?_
    have above := high c member
    constructor
    · rintro rfl
      exact absurd above (by decide)
    · rintro rfl
      exact absurd above (by decide)

private theorem quoteWithin_inside (bound : Nat) (value : GoString) : Inside (quoteWithin bound value) := by
  induction bound generalizing value with
  | zero => exact Inside.plain nofun
  | succ bound ih =>
      cases value with
      | nil => exact Inside.plain nofun
      | cons first rest =>
          unfold quoteWithin
          cases rune : UTF8.runeLength (first :: rest) with
          | zero => exact (Inside.escape (Inside.written (by decide))).append (ih rest)
          | succ more =>
              dsimp only
              split
              · next low => exact (escapeByte_inside low).append (ih rest)
              · next high =>
                exact (escapeRune_inside (rune_high rune high).1).append (ih _)

/-- A string is read up to the quote that ends it. -/
theorem literal_quote (value rest : GoString) :
    literal (quoteWithin value.length value ++ byte '"' :: rest) =
      (quoteWithin value.length value ++ [byte '"'], rest) := by
  rw [quoteWithin_inside]
  have ends : literal (byte '"' :: rest) = ([byte '"'], rest) := by
    cases rest <;> rfl
  rw [ends]

/-! ## Values -/

/-- Wherever the text stands, the reader makes this value of it. -/
structure Reads (raw : GoString) (json : Json) : Prop where
  begins : ∃ first tail, raw = first :: tail ∧ isSpace first = false ∧ first ≠ 0x5D
  reads : ∀ bound rest, raw.length ≤ bound → (∀ c, rest.head? = some c → numberByte c = false) →
    readValue bound (raw ++ rest) = some (json, rest)

theorem skipSpace_byte {c : UInt8} (rest : GoString) (other : isSpace c = false) :
    skipSpace (c :: rest) = c :: rest := by
  simp [skipSpace, other]

theorem Reads.skipSpace {raw : GoString} {json : Json} (reads : Reads raw json) (rest : GoString) :
    skipSpace (raw ++ rest) = raw ++ rest := by
  obtain ⟨first, tail, rfl, unspaced, _⟩ := reads.begins
  exact skipSpace_byte _ unspaced

theorem Reads.some_ {raw : GoString} {json : Json} (reads : Reads raw json) : 1 ≤ raw.length := by
  obtain ⟨first, tail, rfl, _⟩ := reads.begins
  simp

theorem null_reads : Reads null .null := by
  refine ⟨⟨_, _, rfl, by decide, by decide⟩, fun bound rest room _ => ?_⟩
  cases bound with
  | zero => cases room
  | succ bound => rfl

theorem quote_reads {value : GoString} (written : UTF8.valid value = true) :
    Reads (quote value) (.string (quote value) value) := by
  refine ⟨⟨_, _, rfl, by decide, by decide⟩, fun bound rest room _ => ?_⟩
  cases bound with
  | zero => cases room
  | succ bound =>
      have inside : literal ((quoteWithin value.length value ++ [byte '"']) ++ rest) =
          (quoteWithin value.length value ++ [byte '"'], rest) := by
        rw [List.append_assoc]
        exact literal_quote value rest
      have whole : unquote (byte '"' :: (quoteWithin value.length value ++ [byte '"'])) = some value := by
        rw [← quote, unquote_quote, (UTF8.repair_iff value).mpr written]
      have first : byte '"' ≠ byte '\x7b' ∧ byte '"' ≠ byte '[' := by decide
      rw [quote, List.cons_append, readValue, if_neg first.1, if_neg first.2, if_pos rfl, inside]
      simp only [whole]
      rfl

theorem integerText_numbers (value : Int) : ∀ c ∈ integerText value, numberByte c = true := by
  have digits : ∀ c ∈ itoa value.natAbs, numberByte c = true := by
    intro c member
    simp [numberByte, List.all_eq_true.mp (itoa_digits value.natAbs) c member]
  unfold integerText
  split
  · exact List.forall_mem_cons.mpr ⟨by decide, digits⟩
  · exact digits

theorem integer_reads (value : Int) : Reads (integerText value) (.number (integerText value)) := by
  have numbers := integerText_numbers value
  have some_ : integerText value ≠ [] := by
    unfold integerText
    split
    · simp
    · exact itoa_some _
  have others : ∀ first, numberByte first = true → isSpace first = false ∧ first ≠ 0x5D ∧ first ≠ byte '\x7b' ∧
      first ≠ byte '[' ∧ first ≠ byte '"' ∧ first ≠ byte 't' ∧ first ≠ byte 'f' ∧ first ≠ byte 'n' := by
    intro first number
    have every : ∀ value : Fin 256, numberByte (UInt8.ofNat value.val) = true →
        isSpace (UInt8.ofNat value.val) = false ∧ UInt8.ofNat value.val ≠ 0x5D ∧
          UInt8.ofNat value.val ≠ byte '\x7b' ∧ UInt8.ofNat value.val ≠ byte '[' ∧
          UInt8.ofNat value.val ≠ byte '"' ∧ UInt8.ofNat value.val ≠ byte 't' ∧
          UInt8.ofNat value.val ≠ byte 'f' ∧ UInt8.ofNat value.val ≠ byte 'n' := by
      decide +kernel
    have this_ := every ⟨first.toNat, first.toNat_lt⟩
    rw [UInt8.ofNat_toNat] at this_
    exact this_ number
  cases written : integerText value with
  | nil => exact absurd written some_
  | cons first tail =>
      rw [written] at numbers
      obtain ⟨unspaced, unended, brace, bracket, quoted, letters⟩ := others first (numbers first List.mem_cons_self)
      refine ⟨⟨first, tail, rfl, unspaced, unended⟩, fun bound rest room stops => ?_⟩
      cases bound with
      | zero => cases room
      | succ bound =>
          have ends : rest.takeWhile numberByte = [] := by
            cases rest with
            | nil => rfl
            | cons c more => simp [stops c rfl]
          have token : (first :: (tail ++ rest)).takeWhile numberByte = first :: tail := by
            rw [← List.cons_append, List.takeWhile_append_of_pos numbers, ends, List.append_nil]
          rw [List.cons_append, readValue, if_neg brace, if_neg bracket, if_neg quoted, if_neg letters.1,
            if_neg letters.2.1, if_neg letters.2.2]
          simp only [token]
          rw [← List.cons_append, List.drop_left]

section Lists

variable {item : GoString} {value : Json} {bound : Nat}

private theorem plain_bytes : numberByte (byte ',') = false ∧ numberByte (byte ']') = false ∧
    numberByte (byte '\x7d') = false ∧ isSpace (byte ',') = false ∧ isSpace (byte ']') = false ∧
    isSpace (byte '\x7d') = false ∧ isSpace (byte ':') = false := by
  decide

/-- The item that comes first, whatever follows it. -/
theorem readItems_first (reads : Reads item value) (room : item.length ≤ bound) {c : UInt8} (rest : GoString)
    (stops : numberByte c = false) (unspaced : isSpace c = false) :
    readItems (bound + 1) (item ++ c :: rest) =
      if c = 0x2C then (readItems bound (skipSpace rest)).map fun (items, behind) => (value :: items, behind)
      else some ([value], rest) := by
  have whole := reads.reads bound (c :: rest) room (by simpa using stops)
  obtain ⟨first, tail, rfl, _, other⟩ := reads.begins
  rw [List.cons_append] at whole ⊢
  rw [readItems]
  · rw [whole]
    simp only [Option.bind_eq_bind, Option.bind_some, skipSpace_byte rest unspaced]
    by_cases comma : c = 0x2C
    · subst comma
      rw [if_pos rfl]
      change (readItems bound (skipSpace rest)).bind _ = _
      cases readItems bound (skipSpace rest) <;> rfl
    · rw [if_neg comma]
      split
      · next same => exact absurd (List.cons.inj same).1 comma
      · next same => cases same; rfl
      · next same => cases same
  · exact fun _ same => other (List.cons.inj same).1

theorem commaSeparated_begins {items : List GoString} {values : List Json} (each : List.Forall₂ Reads items values)
    (some_ : items ≠ []) (rest : GoString) : skipSpace (commaSeparated items ++ rest) = commaSeparated items ++ rest := by
  cases each with
  | nil => exact absurd rfl some_
  | @cons item _ others _ first _ =>
      cases others with
      | nil => exact first.skipSpace rest
      | cons next others =>
          rw [commaSeparated, List.append_assoc]
          exact first.skipSpace _
          simp

theorem readItems_commaSeparated {items : List GoString} {values : List Json}
    (each : List.Forall₂ Reads items values) (rest : GoString) (room : (commaSeparated items).length < bound) :
    readItems bound (commaSeparated items ++ byte ']' :: rest) = some (values, rest) := by
  induction each generalizing bound with
  | nil =>
      cases bound with
      | zero => cases room
      | succ bound => rfl
  | @cons item value items values first others ih =>
      cases bound with
      | zero => cases room
      | succ bound =>
          cases others with
          | nil =>
              rw [commaSeparated] at room ⊢
              rw [readItems_first first (Nat.le_of_lt_succ room) rest plain_bytes.2.1 plain_bytes.2.2.2.2.1]
              rfl
          | @cons next following nexts followings second further =>
              rw [commaSeparated] at room ⊢
              · rw [List.length_append, List.length_cons] at room
                rw [List.append_assoc, List.cons_append,
                  readItems_first first (by omega) _ plain_bytes.1 plain_bytes.2.2.2.1, if_pos (by decide),
                  commaSeparated_begins (.cons second further) (List.cons_ne_nil _ _), ih (by omega)]
                rfl
              · simp
              · simp

theorem array_reads {items : List GoString} {values : List Json} (each : List.Forall₂ Reads items values) :
    Reads (array items) (.array (array items) values) := by
  refine ⟨⟨_, _, rfl, by decide, by decide⟩, fun bound rest room _ => ?_⟩
  cases bound with
  | zero => cases room
  | succ bound =>
      have inner : readItems bound (skipSpace (commaSeparated items ++ byte ']' :: rest)) = some (values, rest) := by
        have small : (commaSeparated items).length < bound := by
          simp only [array, List.length_cons, List.length_append, List.length_nil] at room
          omega
        cases each with
        | nil => exact readItems_commaSeparated .nil rest small
        | cons first others =>
            rw [commaSeparated_begins (.cons first others) (List.cons_ne_nil _ _)]
            exact readItems_commaSeparated (.cons first others) rest small
      have other : byte '[' ≠ byte '\x7b' := by decide
      rw [array, List.cons_append, readValue, if_neg other, if_pos rfl, List.append_assoc, List.singleton_append, inner]
      simp only [Option.bind_eq_bind, Option.bind_some, Option.pure_def, Option.some.injEq, Prod.mk.injEq, and_true]
      congr 2
      rw [List.length_append, List.length_cons]
      have taken : (commaSeparated items).length + (rest.length + 1) - rest.length = (commaSeparated items).length + 1 := by
        omega
      rw [taken, List.take_append, List.take_of_length_le (by omega)]
      simp

/-- A key with the value that it has. -/
def memberText (member : GoString × GoString) : GoString := quote member.1 ++ byte ':' :: member.2

/-- The member that comes first, whatever follows it. -/
theorem readMembers_first {key : GoString} (written : UTF8.valid key = true) (reads : Reads item value)
    (room : item.length ≤ bound) {c : UInt8} (rest : GoString) (stops : numberByte c = false)
    (unspaced : isSpace c = false) :
    readMembers (bound + 1) (memberText (key, item) ++ c :: rest) =
      if c = 0x2C then
        (readMembers bound (skipSpace rest)).map fun (members, last) => ((key, value) :: members, last)
      else some ([(key, value)], rest) := by
  have whole := reads.reads bound (c :: rest) room (by simpa using stops)
  have begun : memberText (key, item) ++ c :: rest =
      0x22 :: (quoteWithin key.length key ++ byte '"' :: (byte ':' :: (item ++ c :: rest))) := by
    simp [memberText, quote]
    decide
  have named : unquote (0x22 :: (quoteWithin key.length key ++ [byte '"'])) = some key := by
    have whole := unquote_quote key
    rw [(UTF8.repair_iff key).mpr written] at whole
    exact whole
  rw [begun, readMembers, literal_quote]
  simp only [named, Option.bind_eq_bind, Option.bind_some, skipSpace_byte _ plain_bytes.2.2.2.2.2.2,
    List.drop_succ_cons, List.drop_zero, reads.skipSpace, whole, skipSpace_byte rest unspaced]
  by_cases comma : c = 0x2C
  · subst comma
    rw [if_pos rfl]
    change (readMembers bound (skipSpace rest)).bind _ = _
    cases readMembers bound (skipSpace rest) <;> rfl
  · rw [if_neg comma]
    split
    · next same => exact absurd (List.cons.inj same).1 comma
    · next same => cases same; rfl
    · next same => cases same

/-- The members of an object: the keys with the texts, and with the values. -/
structure MemberReads (member : GoString × GoString) (read : GoString × Json) : Prop where
  key : read.1 = member.1
  written : UTF8.valid member.1 = true
  value : Reads member.2 read.2

theorem members_begin (members : List (GoString × GoString)) (some_ : members ≠ []) (rest : GoString) :
    skipSpace (commaSeparated (members.map memberText) ++ rest) = commaSeparated (members.map memberText) ++ rest := by
  cases members with
  | nil => exact absurd rfl some_
  | cons member others =>
      have begun : ∃ tail, commaSeparated ((member :: others).map memberText) = byte '"' :: tail := by
        cases others with
        | nil => exact ⟨_, rfl⟩
        | cons next others => exact ⟨_, rfl⟩
      obtain ⟨tail, same⟩ := begun
      rw [same]
      exact skipSpace_byte _ (by decide)

theorem readMembers_commaSeparated {members : List (GoString × GoString)} {values : List (GoString × Json)}
    (each : List.Forall₂ MemberReads members values) (rest : GoString)
    (room : (commaSeparated (members.map memberText)).length < bound) :
    readMembers bound (commaSeparated (members.map memberText) ++ byte '\x7d' :: rest) = some (values, rest) := by
  induction each generalizing bound with
  | nil =>
      cases bound with
      | zero => cases room
      | succ bound => rfl
  | @cons member value members values first others ih =>
      obtain ⟨key, item⟩ := member
      obtain ⟨name, json⟩ := value
      obtain rfl : name = key := first.key
      have valued : Reads item json := first.value
      cases bound with
      | zero => cases room
      | succ bound =>
          have inside : (memberText (name, item)).length = (quote name).length + (item.length + 1) := by
            simp [memberText]
          cases others with
          | nil =>
              rw [List.map_cons, List.map_nil, commaSeparated] at room ⊢
              rw [readMembers_first first.written valued (by omega) rest plain_bytes.2.2.1 plain_bytes.2.2.2.2.2.1]
              rfl
          | @cons next following nexts followings second further =>
              rw [List.map_cons, List.map_cons, commaSeparated] at room ⊢
              · rw [List.length_append, List.length_cons] at room
                rw [List.append_assoc, List.cons_append,
                  readMembers_first first.written valued (by omega) _ plain_bytes.1 plain_bytes.2.2.2.1,
                  if_pos (by decide), ← List.map_cons, members_begin _ (List.cons_ne_nil _ _),
                  ih (by rw [List.map_cons]; omega)]
                rfl
              · simp
              · simp

theorem object_reads {members : List (GoString × GoString)} {values : List (GoString × Json)}
    (each : List.Forall₂ MemberReads members values) :
    Reads (object members) (.object (object members) values) := by
  refine ⟨⟨_, _, rfl, by decide, by decide⟩, fun bound rest room _ => ?_⟩
  have written : object members = byte '\x7b' :: (commaSeparated (members.map memberText) ++ [byte '\x7d']) := rfl
  cases bound with
  | zero => cases room
  | succ bound =>
      have inner : readMembers bound (skipSpace (commaSeparated (members.map memberText) ++ byte '\x7d' :: rest)) =
          some (values, rest) := by
        have small : (commaSeparated (members.map memberText)).length < bound := by
          simp only [written, List.length_cons, List.length_append, List.length_nil] at room
          omega
        cases each with
        | nil => exact readMembers_commaSeparated .nil rest small
        | cons first others =>
            rw [members_begin _ (List.cons_ne_nil _ _)]
            exact readMembers_commaSeparated (.cons first others) rest small
      rw [written, List.cons_append, readValue, if_pos rfl, List.append_assoc, List.singleton_append, inner]
      simp only [Option.bind_eq_bind, Option.bind_some, Option.pure_def, Option.some.injEq, Prod.mk.injEq, and_true]
      congr 2
      rw [List.length_append, List.length_cons]
      have taken : (commaSeparated (members.map memberText)).length + (rest.length + 1) - rest.length =
          (commaSeparated (members.map memberText)).length + 1 := by
        omega
      rw [taken, List.take_append, List.take_of_length_le (by omega)]
      simp

end Lists

/-- A text that is one value is read as that value. -/
theorem read_reads {raw : GoString} {json : Json} {depth : Nat} (value : Value depth raw)
    (shallow : depth ≤ maxNestingDepth) (reads : Reads raw json) : read raw = some json := by
  have whole := reads.reads (raw.length + 1) [] (Nat.le_succ _) nofun
  have begun := reads.skipSpace []
  rw [List.append_nil] at whole begun
  rw [read, if_pos (value.valid shallow), begun, whole]
  rfl

end NodeAtlas.JSON
