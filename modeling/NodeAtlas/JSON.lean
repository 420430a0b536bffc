import NodeAtlas.URL

/-! `json.Valid` of Go's standard library, and what becomes of a text that is
not UTF-8 when `json.Marshal` writes it and `json.Unmarshal` reads it. -/

set_option autoImplicit false

namespace NodeAtlas

namespace JSON

/-- `parseState`: what the scanner is inside of. -/
inductive Within where
  | objectKey
  | objectValue
  | arrayValue
  deriving DecidableEq

inductive Word where
  | true_
  | false_
  | null
  deriving DecidableEq

def Word.letters : Word → GoString
  | .true_ => text "true"
  | .false_ => text "false"
  | .null => text "null"

/-- The `step` functions of the scanner. -/
inductive Step where
  | beginValue
  | beginValueOrEmpty
  | beginString
  | beginStringOrEmpty
  | endValue
  | endTop
  | inString
  | inStringEsc
  | inStringEscU (missing : Nat)
  | neg
  | digits
  | zero
  | dot
  | dotDigits
  | exponent
  | exponentSign
  | exponentDigits
  | literal (word : Word) (read : Nat)
  deriving DecidableEq

structure Scanner where
  step : Step
  stack : List Within
  deriving DecidableEq

def maxNestingDepth : Nat := 10000

def isSpace (c : UInt8) : Bool :=
  c = 0x20 || c = 0x09 || c = 0x0D || c = 0x0A

def isHex (c : UInt8) : Bool :=
  isDigit c || (byte 'a' ≤ c && c ≤ byte 'f') || (byte 'A' ≤ c && c ≤ byte 'F')

def pushParseState (stack : List Within) (inner : Within) (next : Step) : Option Scanner :=
  if stack.length < maxNestingDepth then some ⟨next, inner :: stack⟩ else none

def popParseState : List Within → Scanner
  | [] => ⟨.endTop, []⟩
  | [_] => ⟨.endTop, []⟩
  | _ :: outer => ⟨.endValue, outer⟩

def stateBeginValue (stack : List Within) (c : UInt8) : Option Scanner :=
  if isSpace c then some ⟨.beginValue, stack⟩
  else if c = byte '\x7b' then pushParseState stack .objectKey .beginStringOrEmpty
  else if c = byte '[' then pushParseState stack .arrayValue .beginValueOrEmpty
  else if c = byte '"' then some ⟨.inString, stack⟩
  else if c = byte '-' then some ⟨.neg, stack⟩
  else if c = byte '0' then some ⟨.zero, stack⟩
  else if c = byte 't' then some ⟨.literal .true_ 1, stack⟩
  else if c = byte 'f' then some ⟨.literal .false_ 1, stack⟩
  else if c = byte 'n' then some ⟨.literal .null 1, stack⟩
  else if isDigit c then some ⟨.digits, stack⟩
  else none

def stateEndValue (stack : List Within) (c : UInt8) : Option Scanner :=
  match stack with
  | [] => if isSpace c then some ⟨.endTop, []⟩ else none
  | inner :: outer =>
      if isSpace c then some ⟨.endValue, stack⟩
      else
        match inner with
        | .objectKey => if c = byte ':' then some ⟨.beginValue, .objectValue :: outer⟩ else none
        | .objectValue =>
            if c = byte ',' then some ⟨.beginString, .objectKey :: outer⟩
            else if c = byte '\x7d' then some (popParseState stack)
            else none
        | .arrayValue =>
            if c = byte ',' then some ⟨.beginValue, stack⟩
            else if c = byte ']' then some (popParseState stack)
            else none

def stateBeginString (stack : List Within) (c : UInt8) (self : Step) : Option Scanner :=
  if isSpace c then some ⟨self, stack⟩
  else if c = byte '"' then some ⟨.inString, stack⟩
  else none

def stateExponent (stack : List Within) (c : UInt8) : Option Scanner :=
  if isDigit c then some ⟨.exponentDigits, stack⟩ else none

def stateZero (stack : List Within) (c : UInt8) : Option Scanner :=
  if c = byte '.' then some ⟨.dot, stack⟩
  else if c = byte 'e' || c = byte 'E' then some ⟨.exponent, stack⟩
  else stateEndValue stack c

/-- `none` is `scanError`. -/
def step (scanner : Scanner) (c : UInt8) : Option Scanner :=
  let stack := scanner.stack
  match scanner.step with
  | .beginValue => stateBeginValue stack c
  | .beginValueOrEmpty =>
      if isSpace c then some scanner
      else if c = byte ']' then stateEndValue stack c
      else stateBeginValue stack c
  | .beginString => stateBeginString stack c .beginString
  | .beginStringOrEmpty =>
      if c = byte '\x7d' then stateEndValue (.objectValue :: stack.tail) c
      else stateBeginString stack c .beginStringOrEmpty
  | .endValue => stateEndValue stack c
  | .endTop => if isSpace c then some scanner else none
  | .inString =>
      if c = byte '"' then some ⟨.endValue, stack⟩
      else if c = byte '\\' then some ⟨.inStringEsc, stack⟩
      else if c < 0x20 then none
      else some scanner
  | .inStringEsc =>
      if (text "bfnrt\\/\"").elem c then some ⟨.inString, stack⟩
      else if c = byte 'u' then some ⟨.inStringEscU 3, stack⟩
      else none
  | .inStringEscU missing =>
      if isHex c = false then none
      else if missing = 0 then some ⟨.inString, stack⟩
      else some ⟨.inStringEscU (missing - 1), stack⟩
  | .neg =>
      if c = byte '0' then some ⟨.zero, stack⟩
      else if isDigit c then some ⟨.digits, stack⟩
      else none
  | .digits => if isDigit c then some scanner else stateZero stack c
  | .zero => stateZero stack c
  | .dot => if isDigit c then some ⟨.dotDigits, stack⟩ else none
  | .dotDigits =>
      if isDigit c then some scanner
      else if c = byte 'e' || c = byte 'E' then some ⟨.exponent, stack⟩
      else stateEndValue stack c
  | .exponent =>
      if c = byte '+' || c = byte '-' then some ⟨.exponentSign, stack⟩ else stateExponent stack c
  | .exponentSign => stateExponent stack c
  | .exponentDigits => if isDigit c then some scanner else stateEndValue stack c
  | .literal word read =>
      if word.letters[read]? = some c then
        some (if read + 1 = word.letters.length then ⟨.endValue, stack⟩ else ⟨.literal word (read + 1), stack⟩)
      else none

def scan (scanner : Scanner) (data : GoString) : Option Scanner :=
  data.foldlM step scanner

/-- `json.Valid`; a space more ends a value that has no end of its own. -/
def valid (data : GoString) : Bool :=
  (scan ⟨.beginValue, []⟩ (data ++ [0x20])).any fun scanner => scanner.step = .endTop

example : valid (text "[[1.5e3, true], \"\\u00e9\", null]") = true := by decide

example : valid (text "[01]") = false := by decide

/-! ## Bytes beyond ASCII -/

section High

variable {c : UInt8} (high : 0x80 ≤ c)
include high

private theorem other_byte (value : UInt8) (low : value < 0x80) : c ≠ value := by
  intro same
  rw [same] at high
  exact absurd low (UInt8.not_lt.mpr high)

private theorem high_space : isSpace c = false := by
  simp [isSpace, other_byte high 0x20 (by decide), other_byte high 0x09 (by decide),
    other_byte high 0x0D (by decide), other_byte high 0x0A (by decide)]

private theorem high_digit : isDigit c = false := by
  simp only [isDigit, decide_eq_false_iff_not, not_and]
  intro _ bounded
  exact absurd (UInt8.lt_of_le_of_lt bounded (by decide)) (UInt8.not_lt.mpr high)

private theorem high_hex : isHex c = false := by
  have lower : ¬ c ≤ byte 'f' := fun bounded =>
    absurd (UInt8.lt_of_le_of_lt bounded (by decide)) (UInt8.not_lt.mpr high)
  have upper : ¬ c ≤ byte 'F' := fun bounded =>
    absurd (UInt8.lt_of_le_of_lt bounded (by decide)) (UInt8.not_lt.mpr high)
  simp [isHex, high_digit high, lower, upper]

private theorem high_letter (word : Word) (read : Nat) : word.letters[read]? ≠ some c := by
  intro found
  have member := List.mem_of_getElem? found
  have ascii : word.letters.all (fun value => value < 0x80) = true := by
    cases word <;> decide
  exact other_byte high c (of_decide_eq_true (List.all_eq_true.mp ascii c member)) rfl

private theorem high_endValue (stack : List Within) : stateEndValue stack c = none := by
  unfold stateEndValue
  split
  · simp [high_space high]
  · next inner outer =>
      cases inner <;>
        simp [high_space high, other_byte high (byte ':') (by decide),
          other_byte high (byte ',') (by decide), other_byte high (byte ']') (by decide),
          other_byte high (byte '\x7d') (by decide)]

private theorem high_zero (stack : List Within) : stateZero stack c = none := by
  simp [stateZero, high_endValue high, other_byte high (byte '.') (by decide),
    other_byte high (byte 'e') (by decide), other_byte high (byte 'E') (by decide)]

private theorem high_beginValue (stack : List Within) : stateBeginValue stack c = none := by
  simp [stateBeginValue, high_space high, high_digit high, other_byte high (byte '\x7b') (by decide),
    other_byte high (byte '[') (by decide), other_byte high (byte '"') (by decide),
    other_byte high (byte '-') (by decide), other_byte high (byte '0') (by decide),
    other_byte high (byte 't') (by decide), other_byte high (byte 'f') (by decide),
    other_byte high (byte 'n') (by decide)]

private theorem high_beginString (stack : List Within) (self : Step) : stateBeginString stack c self = none := by
  simp [stateBeginString, high_space high, other_byte high (byte '"') (by decide)]

private theorem high_exponent (stack : List Within) : stateExponent stack c = none := by
  simp [stateExponent, high_digit high]

private theorem high_escape : c ∉ text "bfnrt\\/\"" := by
  intro member
  have ascii : (text "bfnrt\\/\"").all (fun value => value < 0x80) = true := by decide
  exact other_byte high c (of_decide_eq_true (List.all_eq_true.mp ascii c member)) rfl

/-- Outside of strings there are none. -/
theorem step_high (scanner : Scanner) :
    step scanner c = if scanner.step = .inString then some scanner else none := by
  obtain ⟨at_, stack⟩ := scanner
  cases at_ with
  | beginValue => simp [step, high_beginValue high]
  | beginValueOrEmpty =>
      simp [step, high_space high, high_beginValue high, other_byte high (byte ']') (by decide)]
  | beginString => simp [step, high_beginString high]
  | beginStringOrEmpty => simp [step, high_beginString high, other_byte high (byte '\x7d') (by decide)]
  | endValue => simp [step, high_endValue high]
  | endTop => simp [step, high_space high]
  | inString =>
      have printable : ¬ c < 0x20 := fun control =>
        absurd (UInt8.lt_trans control (by decide)) (UInt8.not_lt.mpr high)
      simp [step, printable, other_byte high (byte '"') (by decide), other_byte high (byte '\\') (by decide)]
  | inStringEsc => simp [step, high_escape high, other_byte high (byte 'u') (by decide)]
  | inStringEscU missing => simp [step, high_hex high]
  | neg => simp [step, high_digit high, other_byte high (byte '0') (by decide)]
  | digits => simp [step, high_digit high, high_zero high]
  | zero => simp [step, high_zero high]
  | dot => simp [step, high_digit high]
  | dotDigits =>
      simp [step, high_digit high, high_endValue high, other_byte high (byte 'e') (by decide),
        other_byte high (byte 'E') (by decide)]
  | exponent =>
      simp [step, high_exponent high, other_byte high (byte '+') (by decide),
        other_byte high (byte '-') (by decide)]
  | exponentSign => simp [step, high_exponent high]
  | exponentDigits => simp [step, high_digit high, high_endValue high]
  | literal word read => simp [step, high_letter high]

end High

/-- In a string a byte beyond ASCII is as good as any other. -/
theorem scan_high (low high : GoString) (lowHigh : ∀ c ∈ low, 0x80 ≤ c) (highHigh : ∀ c ∈ high, 0x80 ≤ c)
    (some_ : low ≠ []) (more : high ≠ []) (scanner : Scanner) : scan scanner low = scan scanner high := by
  have same : ∀ data : GoString, (∀ c ∈ data, 0x80 ≤ c) → data ≠ [] →
      scan scanner data = if scanner.step = .inString then some scanner else none := by
    intro data
    induction data with
    | nil =>
        intro _ nonempty
        exact absurd rfl nonempty
    | cons first rest ih =>
        intro high _
        have head : scan scanner (first :: rest) = (step scanner first).bind fun next => scan next rest := rfl
        rw [head, step_high (high first List.mem_cons_self)]
        by_cases inside : scanner.step = .inString
        · by_cases last : rest = []
          · simp [inside, last, scan]
          · rw [if_pos inside, Option.bind_some,
              ih (fun c member => high c (List.mem_cons_of_mem _ member)) last]
            exact if_pos inside
        · simp [inside]
  rw [same low lowHigh some_, same high highHigh more]

theorem scan_append (scanner : Scanner) (first second : GoString) :
    scan scanner (first ++ second) = (scan scanner first).bind fun next => scan next second := by
  simp [scan, List.foldlM_append]

end JSON

/-! ## Texts that are not UTF-8 -/

namespace UTF8

def continues (low high value : UInt8) : Bool := low ≤ value && value ≤ high

/-- The length of the rune with which a text begins; none has 0. -/
def runeLength : GoString → Nat
  | [] => 0
  | first :: rest =>
      let tail := continues 0x80 0xBF
      if first < 0x80 then 1
      else if continues 0xC2 0xDF first then
        match rest with
        | second :: _ => if tail second then 2 else 0
        | [] => 0
      else if continues 0xE0 0xEF first then
        match rest with
        | second :: third :: _ =>
            let low := if first = 0xE0 then 0xA0 else 0x80
            let high := if first = 0xED then 0x9F else 0xBF
            if continues low high second && tail third then 3 else 0
        | _ => 0
      else if continues 0xF0 0xF4 first then
        match rest with
        | second :: third :: fourth :: _ =>
            let low := if first = 0xF0 then 0x90 else 0x80
            let high := if first = 0xF4 then 0x8F else 0xBF
            if continues low high second && tail third && tail fourth then 4 else 0
        | _ => 0
      else 0

/-- The encoding of U+FFFD. -/
def replacement : GoString := [0xEF, 0xBF, 0xBD]

def repairWithin : Nat → GoString → GoString
  | 0, _ => []
  | _, [] => []
  | bound + 1, first :: rest =>
      match runeLength (first :: rest) with
      | 0 => replacement ++ repairWithin bound rest
      | more + 1 => first :: (rest.take more ++ repairWithin bound (rest.drop more))

/-- Every byte that is not part of a rune becomes U+FFFD. -/
def repair (value : GoString) : GoString := repairWithin value.length value

example : repair (text "caf\u00e9" ++ [0xE2, 0x82]) =
    text "caf\u00e9" ++ replacement ++ replacement := by
  decide

private theorem broken_high {first : UInt8} {rest : GoString} (broken : runeLength (first :: rest) = 0) :
    0x80 ≤ first := by
  apply UInt8.not_lt.mp
  intro ascii
  simp [runeLength, ascii] at broken

private theorem scan_within {bound : Nat} {value : GoString} (enough : value.length ≤ bound)
    (scanner : JSON.Scanner) : JSON.scan scanner (repairWithin bound value) = JSON.scan scanner value := by
  induction bound generalizing value scanner with
  | zero =>
      have empty : value = [] := List.eq_nil_of_length_eq_zero (by omega)
      rw [empty]
      rfl
  | succ bound ih =>
      cases value with
      | nil => rfl
      | cons first rest =>
          have shorter : rest.length ≤ bound := by simpa using enough
          unfold repairWithin
          split
          · next broken =>
              have high := broken_high broken
              have head : first :: rest = [first] ++ rest := rfl
              rw [JSON.scan_append, head, JSON.scan_append,
                JSON.scan_high replacement [first] (by simp [replacement]) (by simpa using high)
                  (by decide) (by simp)]
              congr 1
              funext next
              exact ih shorter next
          · next more _ =>
              have whole : first :: rest = (first :: rest.take more) ++ rest.drop more := by simp
              rw [← List.cons_append, JSON.scan_append]
              conv => rhs; rw [whole, JSON.scan_append]
              congr 1
              funext next
              have dropped : (rest.drop more).length ≤ bound := by
                rw [List.length_drop]
                omega
              exact ih dropped next

/-- Repairing a text changes nothing for `json.Valid`. -/
@[simp] theorem valid_repair (value : GoString) : JSON.valid (repair value) = JSON.valid value := by
  unfold JSON.valid repair
  rw [JSON.scan_append, JSON.scan_append, scan_within (Nat.le_refl _)]

@[simp] theorem repair_ascii {value : GoString} (ascii : ∀ c ∈ value, c < 0x80) : repair value = value := by
  unfold repair
  induction value with
  | nil => rfl
  | cons first rest ih =>
      have single : runeLength (first :: rest) = 1 := by
        simp [runeLength, ascii first List.mem_cons_self]
      simp only [List.length_cons, repairWithin, single, List.take_zero, List.drop_zero, List.nil_append]
      rw [ih fun c member => ascii c (List.mem_cons_of_mem _ member)]

end UTF8

end NodeAtlas
