import NodeAtlas.JSON.Marshal
import NodeAtlas.Network.Factories
import NodeAtlas.Spaces

/-! What the adapters of the providers have in common. -/

set_option autoImplicit false

namespace NodeAtlas.Adapters

open Providers

/-- `strings.ToLower`, which knows letters beyond ASCII, and `uuid.Parse` with
`String` behind it, which takes no empty text for a UUID. -/
structure Library extends NetLibrary where
  toLower : GoString → GoString
  uuid : GoString → Option GoString
  uuid_empty : uuid [] = none

/-- A library to run with; it takes what it is given for a UUID. -/
def plainLibrary : Library where
  toNetLibrary := asciiLibrary
  toLower := lower
  uuid value := if value = [] then none else some value
  uuid_empty := rfl

def capability (available : Bool) (reason : String) : Capability :=
  if available then ⟨true, []⟩ else ⟨false, text reason⟩

/-- `providers.Capability` with a reason only. -/
def without (reason : String) : Capability := ⟨false, text reason⟩

def available : Capability := ⟨true, []⟩

/-- `map[string]string{"type": …, "address": …}`; JSON has the keys in order. -/
def address (kind : String) (value : GoString) : GoString :=
  JSON.object [(text "address", JSON.quote value), (text "type", JSON.quote (text kind))]

def providerFailure (message : String) : GoError := .provider ⟨.provider, text message, false⟩

def notFound (message : String) : GoError := .provider ⟨.notFound, text message, false⟩

/-- `url.QueryEscape` -/
def queryEscape (value : GoString) : GoString :=
  value.flatMap fun c =>
    if isLetter c || isDigit c || (text "-_.~").contains c then [c]
    else if c = 0x20 then [byte '+']
    else [byte '%', URL.hexDigits.getD (c.toNat / 16) 0, URL.hexDigits.getD (c.toNat % 16) 0]

/-- `url.Values.Encode`, of keys in order with one value each. -/
def encodeValues (values : List (GoString × GoString)) : GoString :=
  List.intercalate (text "&") (values.map fun (key, value) => queryEscape key ++ byte '=' :: queryEscape value)

/-- `path.Join` of elements that have nothing to clean. -/
def joinPath (elements : List GoString) : GoString :=
  List.intercalate (text "/") (elements.filter fun element => element ≠ [])

def lowerLetter (c : UInt8) : Bool := byte 'a' ≤ c && c ≤ byte 'z'

/-- `[a-z0-9]` -/
def lowerAlphanumeric (c : UInt8) : Bool := lowerLetter c || isDigit c

/-- `[a-z0-9-]` -/
def labelByte (c : UInt8) : Bool := lowerAlphanumeric c || c = byte '-'

/-- `positiveInteger`: the decimal text of a positive `int64`, without signs or
zeros before it. -/
def positiveInteger (raw : GoString) : Option Int :=
  match parseInt raw with
  | none => none
  | some number => if number < 1 ∨ integerText number ≠ raw then none else some number

theorem positiveInteger_some {raw : GoString} {number : Int} (found : positiveInteger raw = some number) :
    1 ≤ number ∧ integerText number = raw := by
  unfold positiveInteger at found
  split at found
  · cases found
  · split at found
    · cases found
    · next fits =>
        cases found
        rw [not_or, not_not] at fits
        exact ⟨by omega, fits.2⟩

theorem address_value (kind : String) (value : GoString) : JSON.Value 1 (address kind value) := by
  apply JSON.object_value
  intro member present
  simp only [List.mem_cons, List.not_mem_nil, or_false] at present
  rcases present with rfl | rfl
  · exact JSON.quote_value _
  · exact JSON.quote_value _

/-! ## Texts that are not blank -/

private theorem visible_byte {c : UInt8} (low : 0x20 < c) (high : c < 0x80) (rest : GoString) :
    trimSpace (c :: rest) ≠ [] := trimSpace_visible rest low high

theorem digit_visible {c : UInt8} (digit : isDigit c = true) (rest : GoString) : trimSpace (c :: rest) ≠ [] := by
  simp only [isDigit, decide_eq_true_eq] at digit
  exact visible_byte (UInt8.lt_of_lt_of_le (by decide) digit.1) (UInt8.lt_of_le_of_lt digit.2 (by decide)) rest

theorem letter_visible {c : UInt8} (letter : lowerLetter c = true) (rest : GoString) :
    trimSpace (c :: rest) ≠ [] := by
  simp only [lowerLetter, Bool.and_eq_true, decide_eq_true_eq] at letter
  exact visible_byte (UInt8.lt_of_lt_of_le (by decide) letter.1) (UInt8.lt_of_le_of_lt letter.2 (by decide)) rest

theorem integerText_visible (number : Int) : trimSpace (integerText number) ≠ [] := by
  unfold integerText
  split
  · exact visible_byte (by decide) (by decide) _
  · have digits := itoa_digits number.natAbs
    cases written : itoa number.natAbs with
    | nil =>
        have nonempty : Nat.toDigits 10 number.natAbs ≠ [] := by simp
        exact absurd (List.map_eq_nil_iff.mp written) nonempty
    | cons first rest =>
        rw [written, List.all_cons, Bool.and_eq_true] at digits
        exact digit_visible digits.1 rest

end NodeAtlas.Adapters
