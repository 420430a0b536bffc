import NodeAtlas.Decimal
import NodeAtlas.UTF8

/-! What `json.Marshal` writes: that `json.Valid` accepts it, and how its
strings are read back. -/

set_option autoImplicit false

namespace NodeAtlas.JSON

open UTF8

/-! ## Strings -/

def lowHex : GoString := text "0123456789abcdef"

/-- An ASCII byte in a string; what HTML gives a meaning to is escaped too. -/
def escapeByte (c : UInt8) : GoString :=
  if c = byte '"' || c = byte '\\' then [byte '\\', c]
  else if c = 0x08 then [byte '\\', byte 'b']
  else if c = 0x0C then [byte '\\', byte 'f']
  else if c = 0x0A then [byte '\\', byte 'n']
  else if c = 0x0D then [byte '\\', byte 'r']
  else if c = 0x09 then [byte '\\', byte 't']
  else if c < 0x20 || c = byte '<' || c = byte '>' || c = byte '&' then
    [byte '\\', byte 'u', byte '0', byte '0', lowHex.getD (c.toNat / 16) 0, lowHex.getD (c.toNat % 16) 0]
  else [c]

/-- A rune beyond ASCII; two of them end lines in JavaScript. -/
def escapeRune (rune : GoString) : GoString :=
  if rune = [0xE2, 0x80, 0xA8] then text "\\u2028"
  else if rune = [0xE2, 0x80, 0xA9] then text "\\u2029"
  else rune

def quoteWithin : Nat → GoString → GoString
  | 0, _ => []
  | _, [] => []
  | bound + 1, first :: rest =>
      match runeLength (first :: rest) with
      | 0 => text "\\ufffd" ++ quoteWithin bound rest
      | more + 1 =>
          if first < 0x80 then escapeByte first ++ quoteWithin bound rest
          else escapeRune (first :: rest.take more) ++ quoteWithin bound (rest.drop more)

/-- `json.Marshal` of a string. -/
def quote (value : GoString) : GoString :=
  byte '"' :: (quoteWithin value.length value ++ [byte '"'])

def hexValue (digits : GoString) : Option Nat :=
  digits.foldlM (fun value digit => (URL.unhex digit).map (16 * value + ·)) 0

def getu4 : GoString → Option Nat
  | 0x5C :: 0x75 :: first :: second :: third :: fourth :: _ => hexValue [first, second, third, fourth]
  | _ => none

def isSurrogate (rune : Nat) : Bool := 0xD800 ≤ rune && rune < 0xE000

/-- `utf8.EncodeRune` -/
def encodeRune (rune : Nat) : GoString :=
  if isSurrogate rune || 0x110000 ≤ rune then replacement else String.utf8EncodeChar (Char.ofNat rune)

/-- The byte that a letter behind a backslash stands for. -/
def escaped (kind : UInt8) : Option UInt8 :=
  if kind = byte '"' || kind = byte '\\' || kind = byte '/' || kind = 0x27 then some kind
  else if kind = byte 'b' then some 0x08
  else if kind = byte 'f' then some 0x0C
  else if kind = byte 'n' then some 0x0A
  else if kind = byte 'r' then some 0x0D
  else if kind = byte 't' then some 0x09
  else none

/-- What `\u` stands for with the text behind it: a rune, and how long it is. -/
def unquoteRune (rune : Nat) (rest : GoString) : GoString × Nat :=
  if isSurrogate rune then
    match getu4 rest with
    | some low =>
        if rune < 0xDC00 ∧ 0xDC00 ≤ low ∧ low < 0xE000 then
          (encodeRune (0x10000 + (rune - 0xD800) * 0x400 + (low - 0xDC00)), 12)
        else (replacement, 6)
    | none => (replacement, 6)
  else (encodeRune rune, 6)

def unquoteWithin : Nat → GoString → Option GoString
  | _, [] => some []
  | 0, _ => none
  | bound + 1, first :: rest =>
      if first = byte '\\' then
        match rest with
        | [] => none
        | kind :: tail =>
            if kind = byte 'u' then
              match getu4 (first :: rest) with
              | none => none
              | some rune =>
                  let (value, read) := unquoteRune rune (rest.drop 5)
                  (unquoteWithin bound (rest.drop (read - 1))).map (value ++ ·)
            else
              match escaped kind with
              | none => none
              | some c => (unquoteWithin bound tail).map (c :: ·)
      else if first = byte '"' || first < 0x20 then none
      else
        match runeLength (first :: rest) with
        | 0 => (unquoteWithin bound rest).map (replacement ++ ·)
        | more + 1 => (unquoteWithin bound (rest.drop more)).map (first :: rest.take more ++ ·)

/-- `unquote` of the decoder. -/
def unquote : GoString → Option GoString
  | 0x22 :: rest =>
      if rest.getLast? = some (byte '"') then unquoteWithin rest.length rest.dropLast else none
  | _ => none

example : quote (text "a<b\n\u2028" ++ [0xFF]) = text "\"a\\u003cb\\n\\u2028\\ufffd\"" := by
  decide

example : unquote (text "\"\\ud83d\\ude00\\/\\ud83d\"") = some ([0xF0, 0x9F, 0x98, 0x80] ++ text "/" ++ replacement) := by
  decide

/-- A rune that does not begin with an ASCII byte has none, and is one wherever
it stands. -/
theorem rune_high {first : UInt8} {rest : GoString} {more : Nat}
    (read : runeLength (first :: rest) = more + 1) (high : ¬ first < 0x80) :
    (∀ c ∈ first :: rest.take more, 0x80 ≤ c) ∧ (rest.take more).length = more ∧
      ∀ tail, runeLength (first :: (rest.take more ++ tail)) = more + 1 := by
  obtain ⟨rune, behind, split_, bytes, length⟩ := rune_first read
  obtain ⟨lead, follows, rfl, _, continued⟩ := bytes.shape
  obtain ⟨rfl, rfl⟩ := List.cons.inj split_
  have size : follows.length = more := Nat.succ.inj length
  have taken : (follows ++ behind).take more = follows := by rw [← size, List.take_left]
  rw [List.append_eq, taken]
  refine ⟨List.forall_mem_cons.mpr ⟨UInt8.not_lt.mp high, ?_⟩, size, ?_⟩
  · intro c member
    have inside := continued c member
    simp only [continuation, continues, Bool.and_eq_true, decide_eq_true_eq] at inside
    exact inside.1
  · intro tail
    rw [← length, ← bytes.length tail, List.cons_append]

private theorem escapeByte_cases {c : UInt8} (low : c < 0x80) :
    (escapeByte c = [c] ∧ c ≠ byte '\\' ∧ c ≠ byte '"' ∧ ¬ c < 0x20) ∨
      (∃ kind, escapeByte c = [byte '\\', kind] ∧ kind ≠ byte 'u' ∧ escaped kind = some c) ∨
      ∃ high low, escapeByte c = [byte '\\', byte 'u', byte '0', byte '0', high, low] ∧
        hexValue [byte '0', byte '0', high, low] = some c.toNat := by
  have digits : ∀ c : Fin 128, hexValue [byte '0', byte '0', lowHex.getD (c.val / 16) 0,
      lowHex.getD (c.val % 16) 0] = some c.val := by
    decide +kernel
  unfold escapeByte
  split
  · next special =>
      right
      left
      refine ⟨c, rfl, ?_⟩
      rcases (by simpa using special : c = byte '"' ∨ c = byte '\\') with rfl | rfl <;> decide
  split
  · next is_ => exact .inr (.inl ⟨byte 'b', rfl, by decide, by rw [is_]; decide⟩)
  split
  · next is_ => exact .inr (.inl ⟨byte 'f', rfl, by decide, by rw [is_]; decide⟩)
  split
  · next is_ => exact .inr (.inl ⟨byte 'n', rfl, by decide, by rw [is_]; decide⟩)
  split
  · next is_ => exact .inr (.inl ⟨byte 'r', rfl, by decide, by rw [is_]; decide⟩)
  split
  · next is_ => exact .inr (.inl ⟨byte 't', rfl, by decide, by rw [is_]; decide⟩)
  split
  · exact .inr (.inr ⟨_, _, rfl, digits ⟨c.toNat, low⟩⟩)
  · next plain printable =>
      simp only [Bool.or_eq_true, decide_eq_true_eq, not_or] at plain printable
      exact .inl ⟨rfl, by simp_all, by simp_all, printable.1.1.1⟩

/-! ## Reading strings back -/

private theorem unquoteWithin_rune {bound : Nat} {first second third fourth : UInt8} {tail : GoString}
    (rune : Nat) (read : hexValue [first, second, third, fourth] = some rune) (plain : isSurrogate rune = false) :
    unquoteWithin (bound + 1) (byte '\\' :: byte 'u' :: first :: second :: third :: fourth :: tail) =
      (unquoteWithin bound tail).map (encodeRune rune ++ ·) := by
  have found : getu4 (byte '\\' :: byte 'u' :: first :: second :: third :: fourth :: tail) = some rune := read
  simp only [unquoteWithin, if_true, found, unquoteRune, plain, Bool.false_eq_true, if_false,
    List.drop_succ_cons, List.drop_zero]

private theorem unquoteWithin_kind {bound : Nat} {kind c : UInt8} {tail : GoString} (other : kind ≠ byte 'u')
    (stands : escaped kind = some c) :
    unquoteWithin (bound + 1) (byte '\\' :: kind :: tail) = (unquoteWithin bound tail).map (c :: ·) := by
  simp only [unquoteWithin, if_true, other, if_false, stands]

private theorem unquoteWithin_byte {bound : Nat} {c : UInt8} {tail : GoString} (low : c < 0x80) :
    unquoteWithin (bound + 1) (escapeByte c ++ tail) = (unquoteWithin bound tail).map (c :: ·) := by
  rcases escapeByte_cases low with ⟨same, backslash, quoted, control⟩ | ⟨kind, same, other, stands⟩ |
    ⟨high, low', same, read⟩
  · have single : runeLength (c :: tail) = 1 := by simp [runeLength, low]
    simp [same, unquoteWithin, backslash, quoted, control, single]
  · rw [same]
    exact unquoteWithin_kind other stands
  · have below : c.toNat < 128 := low
    have plain : isSurrogate c.toNat = false := by
      simp only [isSurrogate, Bool.and_eq_false_iff, decide_eq_false_iff_not]
      omega
    have encoded : ∀ c : Fin 128, encodeRune c.val = [UInt8.ofNat c.val] := by decide
    rw [same]
    have whole : unquoteWithin (bound + 1) (byte '\\' :: byte 'u' :: byte '0' :: byte '0' :: high :: low' :: tail) =
        (unquoteWithin bound tail).map (encodeRune c.toNat ++ ·) := unquoteWithin_rune c.toNat read plain
    rw [encoded ⟨c.toNat, below⟩] at whole
    simpa using whole

private theorem unquoteWithin_high {bound : Nat} {first : UInt8} {rest tail : GoString} {more : Nat}
    (rune : runeLength (first :: rest) = more + 1) (high : ¬ first < 0x80) :
    unquoteWithin (bound + 1) (escapeRune (first :: rest.take more) ++ tail) =
      (unquoteWithin bound tail).map (first :: rest.take more ++ ·) := by
  obtain ⟨bytes, long, anywhere⟩ := rune_high rune high
  have atLeast := bytes first List.mem_cons_self
  unfold escapeRune
  split
  · next separator =>
      rw [separator]
      exact unquoteWithin_rune 0x2028 (by decide) (by decide)
  split
  · next separator =>
      rw [separator]
      exact unquoteWithin_rune 0x2029 (by decide) (by decide)
  · have backslash : first ≠ byte '\\' := by
      rintro rfl
      exact absurd atLeast (by decide)
    have quoted : first ≠ byte '"' := by
      rintro rfl
      exact absurd atLeast (by decide)
    have control : ¬ first < 0x20 := fun low => high (UInt8.lt_trans low (by decide))
    have front : (rest.take more ++ tail).take more = rest.take more := by
      rw [List.take_append_of_le_length (by omega), List.take_of_length_le (by omega)]
    have back : (rest.take more ++ tail).drop more = tail := by
      rw [List.drop_append_of_le_length (by omega), List.drop_of_length_le (by omega), List.nil_append]
    simp only [List.cons_append, unquoteWithin, backslash, quoted, control, anywhere tail, front, back,
      decide_false, Bool.or_false, Bool.false_eq_true, if_false]

private theorem escapeByte_some {c : UInt8} (low : c < 0x80) : 1 ≤ (escapeByte c).length := by
  rcases escapeByte_cases low with ⟨same, _⟩ | ⟨_, same, _⟩ | ⟨_, _, same, _⟩ <;> simp [same]

private theorem escapeRune_some (rune : GoString) (nonempty : rune ≠ []) : 1 ≤ (escapeRune rune).length := by
  unfold escapeRune
  split
  · decide
  split
  · decide
  · exact List.length_pos_iff.mpr nonempty

private theorem unquoteWithin_quoteWithin {most bound : Nat} {value : GoString}
    (enough : value.length ≤ most) (room : (quoteWithin most value).length ≤ bound) :
    unquoteWithin bound (quoteWithin most value) = some (repairWithin most value) := by
  induction most generalizing bound value with
  | zero => cases bound <;> rfl
  | succ most ih =>
      cases value with
      | nil => cases bound <;> rfl
      | cons first rest =>
          have shorter : rest.length ≤ most := by simpa using enough
          unfold quoteWithin at room ⊢
          unfold repairWithin
          cases rune : runeLength (first :: rest) with
          | zero =>
              simp only [rune] at room ⊢
              cases bound with
              | zero => cases room
              | succ bound =>
                  have fits : (quoteWithin most rest).length ≤ bound := by
                    have letters : (text "\\ufffd").length = 6 := by decide
                    rw [List.length_append] at room
                    omega
                  have whole : unquoteWithin (bound + 1) (text "\\ufffd" ++ quoteWithin most rest) =
                      (unquoteWithin bound (quoteWithin most rest)).map (replacement ++ ·) :=
                    unquoteWithin_rune 0xFFFD (by decide) (by decide)
                  rw [ih shorter fits] at whole
                  exact whole
          | succ more =>
              simp only [rune] at room ⊢
              by_cases low : first < 0x80
              · obtain rfl : more = 0 := by
                  simp [runeLength, low] at rune
                  omega
                rw [if_pos low] at room ⊢
                have some_ := escapeByte_some low
                rw [List.length_append] at room
                obtain ⟨bound, rfl⟩ : ∃ less, bound = less + 1 := ⟨bound - 1, by omega⟩
                rw [unquoteWithin_byte low, ih shorter (by omega)]
                simp
              · rw [if_neg low] at room ⊢
                have some_ := escapeRune_some (first :: rest.take more) (by simp)
                rw [List.length_append] at room
                obtain ⟨bound, rfl⟩ : ∃ less, bound = less + 1 := ⟨bound - 1, by omega⟩
                have dropped : (rest.drop more).length ≤ most := by
                  rw [List.length_drop]
                  omega
                rw [unquoteWithin_high rune low, ih dropped (by omega)]
                simp

/-- A text that goes through JSON comes back as UTF-8. -/
theorem unquote_quote (value : GoString) : unquote (quote value) = some (repair value) := by
  have last : (quoteWithin value.length value ++ [byte '"']).getLast? = some (byte '"') := by simp
  have read : unquote (quote value) = if (quoteWithin value.length value ++ [byte '"']).getLast? = some (byte '"')
      then unquoteWithin (quoteWithin value.length value ++ [byte '"']).length
        (quoteWithin value.length value ++ [byte '"']).dropLast else none := rfl
  rw [read, if_pos last, List.dropLast_concat]
  exact unquoteWithin_quoteWithin (Nat.le_refl _) (by simp)

/-! ## Values -/

def commaSeparated : List GoString → GoString
  | [] => []
  | [item] => item
  | item :: rest => item ++ byte ',' :: commaSeparated rest

/-- `json.Marshal` of a slice whose items are written already. -/
def array (items : List GoString) : GoString := byte '[' :: (commaSeparated items ++ [byte ']'])

/-- The same of a map or a struct. -/
def object (members : List (GoString × GoString)) : GoString :=
  byte '\x7b' :: (commaSeparated (members.map fun (key, value) => quote key ++ byte ':' :: value) ++
    [byte '\x7d'])

def boolean (value : Bool) : GoString := if value then text "true" else text "false"

def null : GoString := text "null"

/-- `json.Marshal` of a `map[string]string`; a nil map is `null`. -/
def stringMap : Option JSONMap → GoString
  | none => null
  | some members =>
      object ((members.mergeSort fun left right => decide (left.1 ≤ right.1)).map fun (key, value) =>
        (key, quote value))

/-- Of what may follow a value, the scanner makes what it makes of it after one. -/
def Ended (stack : List Within) (scanner : Scanner) : Prop :=
  ∀ c ∈ text ",]\x7d ", step scanner c = stateEndValue stack c

/-- Texts that are one value, which nests so deep. -/
def Value (depth : Nat) (raw : GoString) : Prop :=
  ∀ stack : List Within, stack.length + depth ≤ maxNestingDepth →
    ∀ start ∈ [Step.beginValue, Step.beginValueOrEmpty],
      ∃ next, scan ⟨start, stack⟩ raw = some next ∧ Ended stack next

theorem Value.valid {depth : Nat} {raw : GoString} (value : Value depth raw)
    (shallow : depth ≤ maxNestingDepth) : valid raw = true := by
  obtain ⟨next, scanned, ended⟩ := value [] (by simpa using shallow) .beginValue (by decide)
  have last : step next 0x20 = some ⟨.endTop, []⟩ := ended 0x20 (by decide)
  have whole : scan ⟨.beginValue, []⟩ (raw ++ [0x20]) = some ⟨.endTop, []⟩ := by
    rw [scan_append, scanned, Option.bind_some]
    simp [scan, last]
  simp [JSON.valid, whole]

theorem Value.deeper {depth more : Nat} {raw : GoString} (value : Value depth raw) (atMost : depth ≤ more) :
    Value more raw := by
  intro stack room
  exact value stack (by omega)

private theorem scan_cons (scanner : Scanner) (c : UInt8) (rest : GoString) :
    scan scanner (c :: rest) = (step scanner c).bind fun next => scan next rest := rfl

private theorem endValue_ended (stack : List Within) : Ended stack ⟨.endValue, stack⟩ := by
  intro c _
  rfl

private theorem popped_ended (inner : Within) (stack : List Within) :
    Ended stack (popParseState (inner :: stack)) := by
  intro c _
  cases stack with
  | nil =>
      by_cases space : isSpace c <;> simp [popParseState, step, stateEndValue, space]
  | cons outer rest => rfl

/-- What no empty array begins with. -/
private theorem step_start {start : Step} (begins : start ∈ [Step.beginValue, Step.beginValueOrEmpty])
    (stack : List Within) {c : UInt8} (visible : isSpace c = false) (other : c ≠ byte ']') :
    step ⟨start, stack⟩ c = stateBeginValue stack c := by
  simp only [List.mem_cons, List.not_mem_nil, or_false] at begins
  rcases begins with rfl | rfl <;> simp [step, visible, other]

/-! ### Strings -/

/-- The steps in a string look at no stack. -/
private def inside (current : Step) (c : UInt8) : Option Step :=
  match current with
  | .inString | .inStringEsc | .inStringEscU _ => (step ⟨current, []⟩ c).map Scanner.step
  | _ => none

private theorem step_inside {current next : Step} {c : UInt8} (stays : inside current c = some next)
    (stack : List Within) : step ⟨current, stack⟩ c = some ⟨next, stack⟩ := by
  unfold inside at stays
  split at stays
  · simp only [step] at stays ⊢
    grind
  · simp only [step] at stays ⊢
    grind
  · simp only [step] at stays ⊢
    grind
  · cases stays

private theorem scan_inside {data : GoString} {current next : Step}
    (stays : data.foldlM inside current = some next) (stack : List Within) :
    scan ⟨current, stack⟩ data = some ⟨next, stack⟩ := by
  induction data generalizing current with
  | nil =>
      cases stays
      rfl
  | cons first rest ih =>
      obtain ⟨middle, moved, more⟩ := Option.bind_eq_some_iff.mp stays
      rw [scan_cons, step_inside moved, Option.bind_some]
      exact ih more

private theorem scan_byte {c : UInt8} (low : c < 0x80) (stack : List Within) :
    scan ⟨.inString, stack⟩ (escapeByte c) = some ⟨.inString, stack⟩ := by
  have every : ∀ c : Fin 128, (escapeByte (UInt8.ofNat c.val)).foldlM inside .inString = some .inString := by
    decide +kernel
  have this := every ⟨c.toNat, low⟩
  rw [UInt8.ofNat_toNat] at this
  exact scan_inside this stack

private theorem scan_rune {rune : GoString} (high : ∀ c ∈ rune, 0x80 ≤ c) (some_ : rune ≠ [])
    (stack : List Within) : scan ⟨.inString, stack⟩ (escapeRune rune) = some ⟨.inString, stack⟩ := by
  unfold escapeRune
  split
  · exact scan_inside (by decide) stack
  split
  · exact scan_inside (by decide) stack
  · rw [scan_high rune [0x80] high (by simp) some_ (by decide)]
    rfl

private theorem scan_quoteWithin {most : Nat} {value : GoString} (stack : List Within) :
    scan ⟨.inString, stack⟩ (quoteWithin most value) = some ⟨.inString, stack⟩ := by
  induction most generalizing value with
  | zero => rfl
  | succ most ih =>
      cases value with
      | nil => rfl
      | cons first rest =>
          unfold quoteWithin
          cases rune : runeLength (first :: rest) with
          | zero =>
              have escape : scan ⟨.inString, stack⟩ (text "\\ufffd") = some ⟨.inString, stack⟩ :=
                scan_inside (by decide) stack
              simp only [scan_append, escape, Option.bind_some, ih]
          | succ more =>
              by_cases low : first < 0x80
              · simp only [low, if_true, scan_append, scan_byte low, Option.bind_some, ih]
              · have high := (rune_high rune low).1
                simp only [low, if_false, scan_append, scan_rune high (by simp), Option.bind_some, ih]

private theorem scan_quoted (value : GoString) (stack : List Within) :
    scan ⟨.inString, stack⟩ (quoteWithin value.length value ++ [byte '"']) = some ⟨.endValue, stack⟩ := by
  rw [scan_append, scan_quoteWithin]
  rfl

theorem quote_value (value : GoString) : Value 0 (quote value) := by
  intro stack _ start begins
  refine ⟨⟨.endValue, stack⟩, ?_, endValue_ended stack⟩
  unfold quote
  rw [scan_cons, step_start begins stack (by decide) (by decide)]
  exact scan_quoted value stack

/-! ### Words and numbers -/

private theorem word_value {word : GoString}
    (literal : word = text "true" ∨ word = text "false" ∨ word = text "null") : Value 0 word := by
  have letters : text "true" = [116, 114, 117, 101] ∧ text "false" = [102, 97, 108, 115, 101] ∧
      text "null" = [110, 117, 108, 108] := by decide
  intro stack _ start begins
  refine ⟨⟨.endValue, stack⟩, ?_, endValue_ended stack⟩
  rw [letters.1, letters.2.1, letters.2.2] at literal
  rcases literal with rfl | rfl | rfl
  · rw [scan_cons, step_start begins stack (by decide) (by decide)]
    rfl
  · rw [scan_cons, step_start begins stack (by decide) (by decide)]
    rfl
  · rw [scan_cons, step_start begins stack (by decide) (by decide)]
    rfl

theorem boolean_value (value : Bool) : Value 0 (boolean value) := by
  cases value with
  | true => exact word_value (.inl rfl)
  | false => exact word_value (.inr (.inl rfl))

theorem null_value : Value 0 null := word_value (.inr (.inr rfl))

private theorem number_ended {number : Step} (ends : number = .zero ∨ number = .digits) (stack : List Within) :
    Ended stack ⟨number, stack⟩ := by
  intro c follows
  have plain : (text ",]\x7d ").all (fun c =>
      isDigit c = false ∧ c ≠ byte '.' ∧ c ≠ byte 'e' ∧ c ≠ byte 'E') = true := by
    decide
  obtain ⟨digit, point, small, large⟩ := of_decide_eq_true (List.all_eq_true.mp plain c follows)
  rcases ends with rfl | rfl <;> simp [step, stateZero, digit, point, small, large]

private theorem digit_byte {value : Nat} (small : value < 10) : isDigit (byte (Nat.digitChar value)) = true := by
  have every : ∀ value : Fin 10, isDigit (byte (Nat.digitChar value.val)) = true := by decide
  exact every ⟨value, small⟩

/-- No number but zero begins with a zero, so that all its digits count. -/
private theorem scan_itoa {value : Nat} {stack : List Within} {before : Scanner}
    (zero : step before (byte '0') = some ⟨.zero, stack⟩)
    (digit : ∀ value, value < 10 → value ≠ 0 → step before (byte (Nat.digitChar value)) = some ⟨.digits, stack⟩) :
    scan before (itoa value) = some ⟨if value = 0 then .zero else .digits, stack⟩ := by
  induction value using Nat.strongRecOn with
  | _ value ih =>
      by_cases small : value < 10
      · rw [itoa_small small, scan_cons]
        by_cases none_ : value = 0
        · subst none_
          exact congrArg (Option.bind · _) zero
        · rw [digit value small none_, if_neg none_]
          rfl
      · have more : value / 10 ≠ 0 := by omega
        rw [itoa_concat (by omega), scan_append, ih (value / 10) (by omega), Option.bind_some, if_neg more,
          if_neg (by omega), scan_cons]
        simp only [step, digit_byte (Nat.mod_lt value (by omega)), if_true]
        rfl

private theorem begin_digit (stack : List Within) {value : Nat} (small : value < 10) (some_ : value ≠ 0) :
    stateBeginValue stack (byte (Nat.digitChar value)) = some ⟨.digits, stack⟩ := by
  have every : ∀ value : Fin 10, value.val ≠ 0 → isSpace (byte (Nat.digitChar value.val)) = false ∧
      byte (Nat.digitChar value.val) ∉ text "\x7b[\"-0tfn" ∧ isDigit (byte (Nat.digitChar value.val)) = true := by
    decide
  obtain ⟨space, other, digit⟩ := every ⟨value, small⟩ some_
  have letters : text "\x7b[\"-0tfn" =
      [byte '\x7b', byte '[', byte '"', byte '-', byte '0', byte 't', byte 'f', byte 'n'] := by decide
  rw [letters] at other
  simp only [List.mem_cons, List.not_mem_nil, or_false, not_or] at other
  simp [stateBeginValue, space, other, digit]

theorem itoa_value (value : Nat) : Value 0 (itoa value) := by
  intro stack _ start begins
  have plain : ∀ value : Fin 10, isSpace (byte (Nat.digitChar value.val)) = false ∧
      byte (Nat.digitChar value.val) ≠ byte ']' := by decide
  refine ⟨_, scan_itoa ?_ ?_, number_ended (by split <;> simp) stack⟩
  · rw [step_start begins stack (by decide) (by decide)]
    rfl
  · intro value small some_
    rw [step_start begins stack (plain ⟨value, small⟩).1 (plain ⟨value, small⟩).2]
    exact begin_digit stack small some_

theorem integer_value (value : Int) : Value 0 (integerText value) := by
  unfold integerText
  split
  · intro stack _ start begins
    have digits : ∀ value : Fin 10, value.val ≠ 0 → byte (Nat.digitChar value.val) ≠ byte '0' := by decide
    have scanned : scan ⟨.neg, stack⟩ (itoa value.natAbs) =
        some ⟨if value.natAbs = 0 then .zero else .digits, stack⟩ := by
      apply scan_itoa rfl
      intro value small some_
      simp [step, digits ⟨value, small⟩ some_, digit_byte small]
    have whole : scan ⟨start, stack⟩ (byte '-' :: itoa value.natAbs) =
        some ⟨if value.natAbs = 0 then .zero else .digits, stack⟩ := by
      rw [scan_cons, step_start begins stack (by decide) (by decide)]
      exact scanned
    exact ⟨_, whole, number_ended (by split <;> simp) stack⟩
  · exact itoa_value value.natAbs

/-! ### Arrays and objects -/

private theorem scan_items {items : List GoString} {depth : Nat} {stack : List Within} {start : Step}
    (values : ∀ item ∈ items, Value depth item) (some_ : items ≠ [])
    (room : stack.length + (depth + 1) ≤ maxNestingDepth)
    (begins : start ∈ [Step.beginValue, Step.beginValueOrEmpty]) :
    scan ⟨start, .arrayValue :: stack⟩ (commaSeparated items ++ [byte ']']) =
      some (popParseState (.arrayValue :: stack)) := by
  induction items generalizing start with
  | nil => exact absurd rfl some_
  | cons item rest ih =>
      obtain ⟨next, scanned, ended⟩ := values item List.mem_cons_self (.arrayValue :: stack)
        (by simp only [List.length_cons]; omega) start begins
      cases rest with
      | nil =>
          have closed := ended (byte ']') (by decide)
          rw [commaSeparated, scan_append, scanned, Option.bind_some, scan_cons, closed]
          rfl
      | cons second others =>
          have parted := ended (byte ',') (by decide)
          rw [commaSeparated, List.append_assoc, scan_append, scanned, Option.bind_some, List.cons_append,
            scan_cons, parted]
          · exact ih (fun item member => values item (List.mem_cons_of_mem _ member)) (by simp) (by decide)
          · simp

theorem array_value {items : List GoString} {depth : Nat} (values : ∀ item ∈ items, Value depth item) :
    Value (depth + 1) (array items) := by
  intro stack room start begins
  refine ⟨popParseState (.arrayValue :: stack), ?_, popped_ended .arrayValue stack⟩
  have pushed : pushParseState stack .arrayValue .beginValueOrEmpty =
      some ⟨.beginValueOrEmpty, .arrayValue :: stack⟩ := if_pos (by omega)
  unfold array
  rw [scan_cons, step_start begins stack (by decide) (by decide)]
  have opened : stateBeginValue stack (byte '[') = some ⟨.beginValueOrEmpty, .arrayValue :: stack⟩ := pushed
  rw [opened, Option.bind_some]
  by_cases none_ : items = []
  · subst none_
    rfl
  · exact scan_items values none_ room (by decide)

private theorem scan_members {members : List (GoString × GoString)} {depth : Nat} {stack : List Within}
    {start : Step} (values : ∀ member ∈ members, Value depth member.2) (some_ : members ≠ [])
    (room : stack.length + (depth + 1) ≤ maxNestingDepth)
    (begins : start ∈ [Step.beginString, Step.beginStringOrEmpty]) :
    scan ⟨start, .objectKey :: stack⟩
        (commaSeparated (members.map fun (key, value) => quote key ++ byte ':' :: value) ++ [byte '\x7d']) =
      some (popParseState (.objectValue :: stack)) := by
  induction members generalizing start with
  | nil => exact absurd rfl some_
  | cons member rest ih =>
      obtain ⟨key, value⟩ := member
      have quoted : step ⟨start, .objectKey :: stack⟩ (byte '"') = some ⟨.inString, .objectKey :: stack⟩ := by
        simp only [List.mem_cons, List.not_mem_nil, or_false] at begins
        rcases begins with rfl | rfl <;> rfl
      obtain ⟨next, scanned, ended⟩ := values (key, value) List.mem_cons_self (.objectValue :: stack)
        (by simp only [List.length_cons]; omega) .beginValue (by decide)
      have named : scan ⟨start, .objectKey :: stack⟩ (quote key ++ byte ':' :: value) = some next := by
        unfold quote
        rw [List.cons_append, scan_cons, quoted, Option.bind_some, scan_append, scan_quoted]
        exact scanned
      cases rest with
      | nil =>
          have closed := ended (byte '\x7d') (by decide)
          rw [List.map_cons, List.map_nil, commaSeparated, scan_append, named, Option.bind_some, scan_cons, closed]
          rfl
      | cons second others =>
          have parted := ended (byte ',') (by decide)
          rw [List.map_cons, List.map_cons, commaSeparated, List.append_assoc, scan_append, named,
            Option.bind_some, List.cons_append, scan_cons, parted]
          · exact ih (fun member present => values member (List.mem_cons_of_mem _ present)) (by simp) (by decide)
          · simp

theorem object_value {members : List (GoString × GoString)} {depth : Nat}
    (values : ∀ member ∈ members, Value depth member.2) : Value (depth + 1) (object members) := by
  intro stack room start begins
  refine ⟨popParseState (.objectValue :: stack), ?_, popped_ended .objectValue stack⟩
  have pushed : pushParseState stack .objectKey .beginStringOrEmpty =
      some ⟨.beginStringOrEmpty, .objectKey :: stack⟩ := if_pos (by omega)
  have opened : stateBeginValue stack (byte '\x7b') = some ⟨.beginStringOrEmpty, .objectKey :: stack⟩ := pushed
  unfold object
  rw [scan_cons, step_start begins stack (by decide) (by decide), opened, Option.bind_some]
  by_cases none_ : members = []
  · subst none_
    rfl
  · exact scan_members values none_ room (by decide)

theorem stringMap_value (members : Option JSONMap) : Value 1 (stringMap members) := by
  cases members with
  | none => exact null_value.deeper (by omega)
  | some members =>
      apply object_value
      intro member present
      obtain ⟨pair, _, rfl⟩ := List.mem_map.mp present
      exact quote_value pair.2

example : valid (object [(text "a", array [quote (text "x\"y"), integerText (-10), null]),
    (text "b", stringMap (some [(text "k", [])]))]) = true := by
  decide +kernel

end NodeAtlas.JSON
