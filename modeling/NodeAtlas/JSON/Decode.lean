import NodeAtlas.JSON.Marshal
import Mathlib.Data.List.Forall2

/-! `json.Unmarshal` of Go's standard library. A value is decoded into what is
there already: members that are missing, and `null`, leave it alone. -/

set_option autoImplicit false

namespace NodeAtlas.JSON

/-- A value; what is no plain scalar comes with the text that it is written as. -/
inductive Json where
  | null
  | boolean (value : Bool)
  | number (token : GoString)
  | string (raw value : GoString)
  | array (raw : GoString) (items : List Json)
  | object (raw : GoString) (members : List (GoString × Json))

def Json.raw : Json → GoString
  | .null => text "null"
  | .boolean value => JSON.boolean value
  | .number token => token
  | .string raw _ => raw
  | .array raw _ => raw
  | .object raw _ => raw

/-! ## Reading -/

def skipSpace (data : GoString) : GoString := data.dropWhile isSpace

/-- A string up to the quote that ends it, and what stands behind. -/
def literal : GoString → GoString × GoString
  | [] => ([], [])
  | 0x5C :: c :: rest =>
      let (inside, behind) := literal rest
      (0x5C :: c :: inside, behind)
  | c :: rest =>
      if c = byte '"' then ([c], rest)
      else
        let (inside, behind) := literal rest
        (c :: inside, behind)

def numberByte (c : UInt8) : Bool := isDigit c || (text "+-.eE").elem c

mutual

def readValue : Nat → GoString → Option (Json × GoString)
  | 0, _ => none
  | _, [] => none
  | bound + 1, first :: rest =>
      if first = byte '\x7b' then do
        let (members, behind) ← readMembers bound (skipSpace rest)
        return (.object (first :: rest.take (rest.length - behind.length)) members, behind)
      else if first = byte '[' then do
        let (items, behind) ← readItems bound (skipSpace rest)
        return (.array (first :: rest.take (rest.length - behind.length)) items, behind)
      else if first = byte '"' then do
        let (inside, behind) := literal rest
        let value ← unquote (first :: inside)
        return (.string (first :: inside) value, behind)
      else if first = byte 't' then some (.boolean true, rest.drop 3)
      else if first = byte 'f' then some (.boolean false, rest.drop 4)
      else if first = byte 'n' then some (.null, rest.drop 3)
      else
        let token := (first :: rest).takeWhile numberByte
        some (.number token, (first :: rest).drop token.length)

/-- The items of an array from one of them, or from its end. -/
def readItems : Nat → GoString → Option (List Json × GoString)
  | 0, _ => none
  | bound + 1, data =>
      match data with
      | 0x5D :: behind => some ([], behind)
      | _ => do
          let (item, more) ← readValue bound data
          match skipSpace more with
          | 0x2C :: next => do
              let (items, behind) ← readItems bound (skipSpace next)
              return (item :: items, behind)
          | _ :: behind => return ([item], behind)
          | [] => none

def readMembers : Nat → GoString → Option (List (GoString × Json) × GoString)
  | 0, _ => none
  | bound + 1, data =>
      match data with
      | 0x22 :: rest => do
          let (inside, behind) := literal rest
          let key ← unquote (0x22 :: inside)
          let (value, more) ← readValue bound (skipSpace ((skipSpace behind).drop 1))
          match skipSpace more with
          | 0x2C :: next => do
              let (members, last) ← readMembers bound (skipSpace next)
              return ((key, value) :: members, last)
          | _ :: last => return ([(key, value)], last)
          | [] => none
      | _ :: behind => some ([], behind)
      | [] => none

end

/-- The value of a text that has one and nothing else. -/
def read (data : GoString) : Option Json :=
  if valid data then (readValue (data.length + 1) (skipSpace data)).map Prod.fst else none

example : (read (text " \x7b\"a\" : [1, \"x\\n\", null], \"A\":true\x7d ")).map Json.raw =
    some (text "\x7b\"a\" : [1, \"x\\n\", null], \"A\":true\x7d") := by
  decide +kernel

/-! ## Decoding -/

/-- Decodes a value into what is there; `none` is an error. -/
abbrev Decoder (T : Type) : Type := T → Json → Option T

def asString : Decoder GoString
  | current, .null => some current
  | _, .string _ value => some value
  | _, _ => none

def asBoolean : Decoder Bool
  | current, .null => some current
  | _, .boolean value => some value
  | _, _ => none

/-- An `int` or an `int64`. -/
def asInt : Decoder Int
  | current, .null => some current
  | _, .number token => parseInt token
  | _, _ => none

/-- `json.RawMessage` -/
def asRaw : Decoder GoString := fun _ value => some value.raw

/-- `isValidNumber` -/
def validNumber (value : GoString) : Bool :=
  valid value && match value with
    | first :: _ => first = byte '-' || isDigit first
    | [] => false

/-- A field of a struct, by the name in its tag. -/
structure Field (T : Type) where
  name : GoString
  decode : Decoder T

/-- A part of a value decoded, and put back. -/
def Field.part {T S : Type} (name : String) (get : T → S) (put : T → S → T) (decode : Decoder S) : Field T where
  name := text name
  decode current value := (decode (get current) value).map (put current)

section Structs

variable {T : Type} (fields : List (Field T))

/-- The field of a key: the one with its name, else the first with one that
differs in case only. -/
def fieldFor (key : GoString) : Option (Field T) :=
  (fields.find? fun field => field.name = key).or (fields.find? fun field => fold field.name = fold key)

/-- `strict` is whether unknown members are errors. -/
def decodeMembers (strict : Bool) : T → List (GoString × Json) → Option T
  | current, [] => some current
  | current, (key, value) :: rest =>
      match fieldFor fields key with
      | some field => do decodeMembers strict (← field.decode current value) rest
      | none => if strict then none else decodeMembers strict current rest

def asStruct (strict : Bool) : Decoder T
  | current, .null => some current
  | current, .object _ members => decodeMembers fields strict current members
  | _, _ => none

end Structs

/-- A slice, and what its array still has behind it from values that it had
before; no items at all is `nil`. -/
structure Slice (T : Type) where
  items : Option (List T)
  spare : List T

def Slice.empty {T : Type} : Slice T := ⟨none, []⟩

def Slice.list {T : Type} (slice : Slice T) : List T := slice.items.getD []

section Slices

variable {T : Type} (decode : Decoder T) (zero : T)

/-- The items, each decoded into what the array has at its index. -/
def decodeItems : List T → List Json → Option (List T)
  | _, [] => some []
  | array, item :: rest => do
      let value ← decode (array.headD zero) item
      return value :: (← decodeItems array.tail rest)

def asSlice : Decoder (Slice T)
  | _, .null => some .empty
  | _, .array _ [] => some ⟨some [], []⟩
  | current, .array _ items => do
      let array := current.list ++ current.spare
      return ⟨some (← decodeItems decode zero array items), array.drop items.length⟩
  | _, _ => none

end Slices

/-- `json.Unmarshal`, and `Decode` of a text of which nothing is left. -/
def unmarshal {T : Type} (decode : Decoder T) (zero : T) (data : GoString) : Option T :=
  (read data).bind (decode zero)

/-- `decodeStrict` of the adapters. -/
def decodeStrict {T : Type} (fields : List (Field T)) (zero : T) (raw : GoString) : Option T :=
  unmarshal (asStruct fields true) zero raw

/-! ## Lists of fallible values -/

section Lists

variable {S T : Type} {f : S → Option T}

theorem mapM_some_iff {items : List S} :
    (∃ values, items.mapM f = some values) ↔ ∀ item ∈ items, ∃ value, f item = some value := by
  induction items with
  | nil => simp
  | cons item rest ih =>
      simp only [List.mapM_cons, Option.bind_eq_bind, Option.pure_def, Option.bind_eq_some_iff,
        List.forall_mem_cons, ← ih]
      constructor
      · rintro ⟨_, value, first, values, more, _⟩
        exact ⟨⟨value, first⟩, ⟨values, more⟩⟩
      · rintro ⟨⟨value, first⟩, ⟨values, more⟩⟩
        exact ⟨value :: values, value, first, values, more, rfl⟩

theorem mapM_forall {items : List S} {values : List T} (mapped : items.mapM f = some values) :
    List.Forall₂ (fun item value => f item = some value) items values := by
  induction items generalizing values with
  | nil =>
      cases mapped
      exact .nil
  | cons item rest ih =>
      simp only [List.mapM_cons, Option.bind_eq_bind, Option.pure_def, Option.bind_eq_some_iff] at mapped
      obtain ⟨value, first, others, more, same⟩ := mapped
      cases same
      exact .cons first (ih more)

theorem mapM_mem {items : List S} {values : List T} {value : T} (mapped : items.mapM f = some values)
    (member : value ∈ values) : ∃ item ∈ items, f item = some value := by
  have each := mapM_forall mapped
  clear mapped
  induction each with
  | nil => cases member
  | cons same _ ih =>
      rcases List.mem_cons.mp member with rfl | later
      · exact ⟨_, List.mem_cons_self, same⟩
      · obtain ⟨item, listed, read⟩ := ih later
        exact ⟨item, List.mem_cons_of_mem _ listed, read⟩

end Lists

/-! ## What is kept -/

section Kept

variable {T : Type} {fields : List (Field T)} {strict : Bool} {kept : T → Prop}

theorem decodeMembers_keeps
    (each : ∀ field ∈ fields, ∀ current value next, kept current → field.decode current value = some next → kept next)
    {current next : T} {members : List (GoString × Json)} (before : kept current)
    (decoded : decodeMembers fields strict current members = some next) : kept next := by
  induction members generalizing current with
  | nil =>
      cases decoded
      exact before
  | cons member rest ih =>
      obtain ⟨key, value⟩ := member
      unfold decodeMembers at decoded
      split at decoded
      · next field found =>
          obtain ⟨middle, first, more⟩ := Option.bind_eq_some_iff.mp decoded
          have listed : field ∈ fields := by
            rcases Option.or_eq_some_iff.mp found with exact_ | ⟨_, folded⟩
            · exact List.mem_of_find?_eq_some exact_
            · exact List.mem_of_find?_eq_some folded
          exact ih (each field listed current value middle before first) more
      · split at decoded
        · cases decoded
        · exact ih before decoded

/-- What every field keeps, a struct keeps. -/
theorem asStruct_keeps
    (each : ∀ field ∈ fields, ∀ current value next, kept current → field.decode current value = some next → kept next)
    {current next : T} {value : Json} (before : kept current)
    (decoded : asStruct fields strict current value = some next) : kept next := by
  unfold asStruct at decoded
  split at decoded
  · cases decoded
    exact before
  · exact decodeMembers_keeps each before decoded
  · cases decoded

theorem asInt_bounds {current next : Int} {value : Json} (before : -2 ^ 63 ≤ current ∧ current < 2 ^ 63)
    (decoded : asInt current value = some next) : -2 ^ 63 ≤ next ∧ next < 2 ^ 63 := by
  unfold asInt at decoded
  split at decoded
  · cases decoded
    exact before
  · exact parseInt_bounds decoded
  · cases decoded

end Kept

/-! ## What is known of slices -/

section Known

variable {T : Type} {decode : Decoder T} {zero : T}

theorem decodeItems_length {array values : List T} {items : List Json}
    (decoded : decodeItems decode zero array items = some values) : values.length = items.length := by
  induction items generalizing array values with
  | nil =>
      cases decoded
      rfl
  | cons item rest ih =>
      simp only [decodeItems, Option.bind_eq_bind, Option.bind_eq_some_iff] at decoded
      obtain ⟨value, _, more, decodedRest, same⟩ := decoded
      cases same
      rw [List.length_cons, List.length_cons, ih decodedRest]

/-- Into an array that has nothing yet, every item is decoded for itself. -/
theorem decodeItems_fresh {items : List Json} :
    decodeItems decode zero [] items = items.mapM fun item => decode zero item := by
  induction items with
  | nil => rfl
  | cons item rest ih => simp [decodeItems, ih, List.mapM_cons]

end Known

end NodeAtlas.JSON
