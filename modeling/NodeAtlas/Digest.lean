import NodeAtlas.Runtime

/-! `sha256.Sum256` and `base64.RawURLEncoding` of Go's standard library. -/

set_option autoImplicit false

namespace NodeAtlas

namespace SHA256

/-- Rotation of a 32-bit word to the right. -/
def rotate (places word : Nat) : Nat :=
  word >>> places ||| word <<< (32 - places) % 2 ^ 32

def roundConstants : List Nat :=
  [0x428a2f98, 0x71374491, 0xb5c0fbcf, 0xe9b5dba5, 0x3956c25b, 0x59f111f1, 0x923f82a4, 0xab1c5ed5,
    0xd807aa98, 0x12835b01, 0x243185be, 0x550c7dc3, 0x72be5d74, 0x80deb1fe, 0x9bdc06a7, 0xc19bf174,
    0xe49b69c1, 0xefbe4786, 0x0fc19dc6, 0x240ca1cc, 0x2de92c6f, 0x4a7484aa, 0x5cb0a9dc, 0x76f988da,
    0x983e5152, 0xa831c66d, 0xb00327c8, 0xbf597fc7, 0xc6e00bf3, 0xd5a79147, 0x06ca6351, 0x14292967,
    0x27b70a85, 0x2e1b2138, 0x4d2c6dfc, 0x53380d13, 0x650a7354, 0x766a0abb, 0x81c2c92e, 0x92722c85,
    0xa2bfe8a1, 0xa81a664b, 0xc24b8b70, 0xc76c51a3, 0xd192e819, 0xd6990624, 0xf40e3585, 0x106aa070,
    0x19a4c116, 0x1e376c08, 0x2748774c, 0x34b0bcb5, 0x391c0cb3, 0x4ed8aa4a, 0x5b9cca4f, 0x682e6ff3,
    0x748f82ee, 0x78a5636f, 0x84c87814, 0x8cc70208, 0x90befffa, 0xa4506ceb, 0xbef9a3f7, 0xc67178f2]

/-- The eight words that are carried from block to block. -/
structure Words where
  a : Nat
  b : Nat
  c : Nat
  d : Nat
  e : Nat
  f : Nat
  g : Nat
  h : Nat

def initial : Words :=
  ⟨0x6a09e667, 0xbb67ae85, 0x3c6ef372, 0xa54ff53a, 0x510e527f, 0x9b05688c, 0x1f83d9ab, 0x5be0cd19⟩

/-- A word for each four bytes. -/
def toWords : List UInt8 → List Nat
  | a :: b :: c :: d :: rest =>
      (a.toNat * 2 ^ 24 + b.toNat * 2 ^ 16 + c.toNat * 2 ^ 8 + d.toNat) :: toWords rest
  | _ => []

/-- The message schedule, latest word first. -/
def extend : Nat → List Nat → List Nat
  | 0, words => words
  | more + 1, words =>
      let near := words.getD 1 0
      let far := words.getD 14 0
      let mixedNear := rotate 17 near ^^^ rotate 19 near ^^^ near >>> 10
      let mixedFar := rotate 7 far ^^^ rotate 18 far ^^^ far >>> 3
      extend more
        ((mixedNear + words.getD 6 0 + mixedFar + words.getD 15 0) % 2 ^ 32 :: words)

def round (state : Words) (constant word : Nat) : Words :=
  let mixedE := rotate 6 state.e ^^^ rotate 11 state.e ^^^ rotate 25 state.e
  let choice := state.e &&& state.f ^^^ (2 ^ 32 - 1 - state.e) &&& state.g
  let first := state.h + mixedE + choice + constant + word
  let mixedA := rotate 2 state.a ^^^ rotate 13 state.a ^^^ rotate 22 state.a
  let majority := state.a &&& state.b ^^^ state.a &&& state.c ^^^ state.b &&& state.c
  ⟨(first + mixedA + majority) % 2 ^ 32, state.a, state.b, state.c, (state.d + first) % 2 ^ 32,
    state.e, state.f, state.g⟩

def rounds (state : Words) : List (Nat × Nat) → Words
  | [] => state
  | (constant, word) :: rest => rounds (round state constant word) rest

def block (state : Words) (bytes : List UInt8) : Words :=
  let words := (extend 48 (toWords bytes).reverse).reverse
  let mixed := rounds state (roundConstants.zip words)
  ⟨(state.a + mixed.a) % 2 ^ 32, (state.b + mixed.b) % 2 ^ 32, (state.c + mixed.c) % 2 ^ 32,
    (state.d + mixed.d) % 2 ^ 32, (state.e + mixed.e) % 2 ^ 32, (state.f + mixed.f) % 2 ^ 32,
    (state.g + mixed.g) % 2 ^ 32, (state.h + mixed.h) % 2 ^ 32⟩

def blocks : Nat → Words → List UInt8 → Words
  | 0, state, _ => state
  | more + 1, state, bytes => blocks more (block state (bytes.take 64)) (bytes.drop 64)

/-- The last `count` bytes of a number, most significant first. -/
def bigEndian : Nat → Nat → List UInt8
  | 0, _ => []
  | count + 1, value => bigEndian count (value / 256) ++ [UInt8.ofNat value]

def pad (message : List UInt8) : List UInt8 :=
  message ++ 0x80 :: List.replicate ((119 - message.length % 64) % 64) 0 ++
    bigEndian 8 (8 * message.length)

end SHA256

open SHA256 in
def sha256 (message : GoString) : GoString :=
  let padded := pad message
  let state := blocks (padded.length / 64) initial padded
  [state.a, state.b, state.c, state.d, state.e, state.f, state.g, state.h].flatMap (bigEndian 4)

theorem bigEndian_length (count value : Nat) : (SHA256.bigEndian count value).length = count := by
  induction count generalizing value with
  | zero => rfl
  | succ count ih => simp [SHA256.bigEndian, ih]

@[simp] theorem sha256_length (message : GoString) : (sha256 message).length = 32 := by
  simp [sha256, bigEndian_length]

example : sha256 (text "abc") =
    [0xba, 0x78, 0x16, 0xbf, 0x8f, 0x01, 0xcf, 0xea, 0x41, 0x41, 0x40, 0xde, 0x5d, 0xae, 0x22, 0x23,
      0xb0, 0x03, 0x61, 0xa3, 0x96, 0x17, 0x7a, 0x9c, 0xb4, 0x10, 0xff, 0x61, 0xf2, 0x00, 0x15, 0xad] := by
  decide

/-! ## Base 64 without padding -/

def urlDigits : GoString :=
  text "ABCDEFGHIJKLMNOPQRSTUVWXYZabcdefghijklmnopqrstuvwxyz0123456789-_"

def urlDigit (value : Nat) : UInt8 := urlDigits.getD (value % 64) 0

/-- `base64.RawURLEncoding.EncodeToString`. -/
def rawURLEncode : GoString → GoString
  | first :: second :: third :: rest =>
      let value := first.toNat * 2 ^ 16 + second.toNat * 2 ^ 8 + third.toNat
      urlDigit (value / 2 ^ 18) :: urlDigit (value / 2 ^ 12) :: urlDigit (value / 2 ^ 6) ::
        urlDigit value :: rawURLEncode rest
  | [first, second] =>
      let value := first.toNat * 2 ^ 16 + second.toNat * 2 ^ 8
      [urlDigit (value / 2 ^ 18), urlDigit (value / 2 ^ 12), urlDigit (value / 2 ^ 6)]
  | [first] =>
      let value := first.toNat * 2 ^ 16
      [urlDigit (value / 2 ^ 18), urlDigit (value / 2 ^ 12)]
  | [] => []

theorem rawURLEncode_nonempty {bytes : GoString} (nonempty : bytes ≠ []) :
    rawURLEncode bytes ≠ [] := by
  unfold rawURLEncode
  split
  · simp
  · simp
  · simp
  · exact absurd rfl nonempty

def urlValue (digit : UInt8) : Option Nat := urlDigits.findIdx? fun other => other = digit

/-- Bits that are left at the end are dropped. -/
def rawURLGroups : GoString → Option GoString
  | [] => some []
  | first :: second :: third :: fourth :: rest => do
      let one ← urlValue first
      let two ← urlValue second
      let three ← urlValue third
      let four ← urlValue fourth
      let more ← rawURLGroups rest
      some (UInt8.ofNat (one * 4 + two / 16) :: UInt8.ofNat (two * 16 + three / 4) ::
        UInt8.ofNat (three * 64 + four) :: more)
  | [first, second, third] => do
      let one ← urlValue first
      let two ← urlValue second
      let three ← urlValue third
      some [UInt8.ofNat (one * 4 + two / 16), UInt8.ofNat (two * 16 + three / 4)]
  | [first, second] => do
      let one ← urlValue first
      let two ← urlValue second
      some [UInt8.ofNat (one * 4 + two / 16)]
  | [_] => none

/-- `base64.RawURLEncoding.DecodeString`, which skips line ends. -/
def rawURLDecode (value : GoString) : Option GoString :=
  rawURLGroups (value.filter fun c => c ≠ 0x0A && c ≠ 0x0D)

private theorem urlDigit_read (value : Nat) : urlValue (urlDigit value) = some (value % 64) := by
  have every : ∀ value : Fin 64, urlValue (urlDigits.getD value 0) = some value.val := by decide +kernel
  exact every ⟨value % 64, by omega⟩

private theorem urlDigit_mem (value : Nat) : urlDigit value ∈ urlDigits := by
  have every : ∀ value : Fin 64, urlDigits.getD value 0 ∈ urlDigits := by decide +kernel
  exact every ⟨value % 64, by omega⟩

private theorem byte_read (value : UInt8) (number : Nat) (same : number % 256 = value.toNat) :
    UInt8.ofNat number = value := by
  apply UInt8.toNat_inj.mp
  simpa using same

theorem rawURLEncode_digits (bytes : GoString) : ∀ c ∈ rawURLEncode bytes, c ∈ urlDigits := by
  induction bytes using rawURLEncode.induct with
  | case1 first second third rest ih =>
      intro c member
      simp only [rawURLEncode, List.mem_cons] at member
      rcases member with rfl | rfl | rfl | rfl | later
      · exact urlDigit_mem _
      · exact urlDigit_mem _
      · exact urlDigit_mem _
      · exact urlDigit_mem _
      · exact ih c later
  | case2 first second =>
      intro c member
      simp only [rawURLEncode, List.mem_cons, List.not_mem_nil, or_false] at member
      rcases member with rfl | rfl | rfl <;> exact urlDigit_mem _
  | case3 first =>
      intro c member
      simp only [rawURLEncode, List.mem_cons, List.not_mem_nil, or_false] at member
      rcases member with rfl | rfl <;> exact urlDigit_mem _
  | case4 =>
      intro c member
      cases member

theorem rawURLEncode_length (bytes : GoString) : (rawURLEncode bytes).length ≤ 2 * bytes.length := by
  induction bytes using rawURLEncode.induct with
  | case1 first second third rest ih =>
      simp only [rawURLEncode, List.length_cons]
      omega
  | case2 first second => simp [rawURLEncode]
  | case3 first => simp [rawURLEncode]
  | case4 => simp [rawURLEncode]

private theorem rawURLGroups_encode (bytes : GoString) : rawURLGroups (rawURLEncode bytes) = some bytes := by
  induction bytes using rawURLEncode.induct with
  | case1 first second third rest ih =>
      have one := first.toNat_lt
      have two := second.toNat_lt
      have three := third.toNat_lt
      simp only [rawURLEncode, rawURLGroups, urlDigit_read, ih, Option.bind_eq_bind, Option.bind_some,
        Option.some.injEq, List.cons.injEq, and_true]
      refine ⟨byte_read _ _ ?_, byte_read _ _ ?_, byte_read _ _ ?_⟩ <;> omega
  | case2 first second =>
      have one := first.toNat_lt
      have two := second.toNat_lt
      simp only [rawURLEncode, rawURLGroups, urlDigit_read, Option.bind_eq_bind, Option.bind_some,
        Option.some.injEq, List.cons.injEq, and_true]
      refine ⟨byte_read _ _ ?_, byte_read _ _ ?_⟩ <;> omega
  | case3 first =>
      have one := first.toNat_lt
      simp only [rawURLEncode, rawURLGroups, urlDigit_read, Option.bind_eq_bind, Option.bind_some,
        Option.some.injEq, List.cons.injEq, and_true]
      exact byte_read _ _ (by omega)
  | case4 => rfl

@[simp] theorem rawURLDecode_encode (bytes : GoString) : rawURLDecode (rawURLEncode bytes) = some bytes := by
  have kept : (rawURLEncode bytes).filter (fun c => c ≠ 0x0A && c ≠ 0x0D) = rawURLEncode bytes := by
    have plain : (urlDigits.all fun c => c ≠ 0x0A && c ≠ 0x0D) = true := by decide
    apply List.filter_eq_self.mpr
    intro c member
    exact List.all_eq_true.mp plain c (rawURLEncode_digits bytes c member)
  unfold rawURLDecode
  rw [kept, rawURLGroups_encode]

example : rawURLEncode (text "panel") = text "cGFuZWw" := by decide

/-- The standard alphabet has `+` and `/` where that for URLs has `-` and `_`. -/
def otherDigit (c : UInt8) : UInt8 :=
  if c = 0x2D then 0x2B
  else if c = 0x2B then 0x2D
  else if c = 0x5F then 0x2F
  else if c = 0x2F then 0x5F
  else c

/-- `base64.RawStdEncoding.EncodeToString`. -/
def rawStdEncode (bytes : GoString) : GoString := (rawURLEncode bytes).map otherDigit

/-- `base64.RawStdEncoding.DecodeString`. -/
def rawStdDecode (value : GoString) : Option GoString := rawURLDecode (value.map otherDigit)

@[simp] theorem rawStdDecode_encode (bytes : GoString) : rawStdDecode (rawStdEncode bytes) = some bytes := by
  have back : (urlDigits.all fun c => otherDigit (otherDigit c) = c) = true := by decide
  have same : ((rawURLEncode bytes).map otherDigit).map otherDigit = rawURLEncode bytes := by
    rw [List.map_map]
    refine (List.map_congr_left ?_).trans (List.map_id _)
    intro c member
    exact of_decide_eq_true (List.all_eq_true.mp back c (rawURLEncode_digits bytes c member))
  unfold rawStdDecode rawStdEncode
  rw [same, rawURLDecode_encode]

theorem rawStdEncode_clean (bytes : GoString) : 0x24 ∉ rawStdEncode bytes := by
  have clean : (urlDigits.all fun c => otherDigit c ≠ 0x24) = true := by decide
  intro member
  obtain ⟨c, digit, same⟩ := List.mem_map.mp member
  exact of_decide_eq_true (List.all_eq_true.mp clean c (rawURLEncode_digits bytes c digit)) same

theorem rawStdEncode_length (bytes : GoString) : (rawStdEncode bytes).length ≤ 2 * bytes.length := by
  rw [rawStdEncode, List.length_map]
  exact rawURLEncode_length bytes

/-! ## Base 64 with padding -/

namespace Base64

def digits : GoString :=
  text "ABCDEFGHIJKLMNOPQRSTUVWXYZabcdefghijklmnopqrstuvwxyz0123456789+/"

def digit (value : Nat) : UInt8 := digits.getD (value % 64) 0

def padding : UInt8 := 0x3D

/-- `base64.StdEncoding.EncodeToString`. -/
def encode : GoString → GoString
  | first :: second :: third :: rest =>
      let value := first.toNat * 2 ^ 16 + second.toNat * 2 ^ 8 + third.toNat
      digit (value / 2 ^ 18) :: digit (value / 2 ^ 12) :: digit (value / 2 ^ 6) :: digit value :: encode rest
  | [first, second] =>
      let value := first.toNat * 2 ^ 16 + second.toNat * 2 ^ 8
      [digit (value / 2 ^ 18), digit (value / 2 ^ 12), digit (value / 2 ^ 6), padding]
  | [first] =>
      let value := first.toNat * 2 ^ 16
      [digit (value / 2 ^ 18), digit (value / 2 ^ 12), padding, padding]
  | [] => []

def digitValue (digit : UInt8) : Option Nat := digits.findIdx? fun other => other = digit

/-- The last group may be padded; bits that are left are dropped. -/
def decodeGroups : GoString → Option GoString
  | [] => some []
  | first :: second :: third :: fourth :: rest => do
      let one ← digitValue first
      let two ← digitValue second
      if third = padding then
        if fourth = padding ∧ rest = [] then some [UInt8.ofNat (one * 4 + two / 16)] else none
      else
        let three ← digitValue third
        if fourth = padding then
          if rest = [] then some [UInt8.ofNat (one * 4 + two / 16), UInt8.ofNat (two * 16 + three / 4)]
          else none
        else
          let four ← digitValue fourth
          let more ← decodeGroups rest
          some (UInt8.ofNat (one * 4 + two / 16) :: UInt8.ofNat (two * 16 + three / 4) ::
            UInt8.ofNat (three * 64 + four) :: more)
  | _ => none

/-- `base64.StdEncoding.DecodeString`, which skips line ends. -/
def decode (value : GoString) : Option GoString :=
  decodeGroups (value.filter fun c => c ≠ 0x0A && c ≠ 0x0D)

private theorem digit_below (value : Nat) : digitValue (digit value) = some (value % 64) := by
  have every : ∀ value : Fin 64, digitValue (digits.getD value 0) = some value.val := by decide +kernel
  exact every ⟨value % 64, by omega⟩

private theorem digit_plain (value : Nat) :
    digit value ≠ padding ∧ digit value < 0x80 ∧ digit value ≠ 0x0A ∧ digit value ≠ 0x0D := by
  have every : ∀ value : Fin 64, digits.getD value 0 ≠ padding ∧ digits.getD value 0 < 0x80 ∧
      digits.getD value 0 ≠ 0x0A ∧ digits.getD value 0 ≠ 0x0D := by
    decide +kernel
  exact every ⟨value % 64, by omega⟩

/-- Everything that is encoded is ASCII. -/
theorem encode_plain (bytes : GoString) : ∀ c ∈ encode bytes, c < 0x80 ∧ c ≠ 0x0A ∧ c ≠ 0x0D := by
  induction bytes using encode.induct with
  | case1 first second third rest ih =>
      intro c member
      simp only [encode, List.mem_cons] at member
      rcases member with rfl | rfl | rfl | rfl | later
      · exact (digit_plain _).2
      · exact (digit_plain _).2
      · exact (digit_plain _).2
      · exact (digit_plain _).2
      · exact ih c later
  | case2 first second =>
      intro c member
      simp only [encode, List.mem_cons, List.not_mem_nil, or_false] at member
      rcases member with rfl | rfl | rfl | rfl
      · exact (digit_plain _).2
      · exact (digit_plain _).2
      · exact (digit_plain _).2
      · decide
  | case3 first =>
      intro c member
      simp only [encode, List.mem_cons, List.not_mem_nil, or_false] at member
      rcases member with rfl | rfl | rfl | rfl
      · exact (digit_plain _).2
      · exact (digit_plain _).2
      · decide
      · decide
  | case4 =>
      intro c member
      cases member

private theorem decodeGroups_encode (bytes : GoString) : decodeGroups (encode bytes) = some bytes := by
  induction bytes using encode.induct with
  | case1 first second third rest ih =>
      have one := first.toNat_lt
      have two := second.toNat_lt
      have three := third.toNat_lt
      simp only [encode, decodeGroups, digit_below, (digit_plain _).1, if_false, ih, Option.bind_eq_bind,
        Option.bind_some, Option.some.injEq, List.cons.injEq, and_true]
      refine ⟨byte_read _ _ ?_, byte_read _ _ ?_, byte_read _ _ ?_⟩ <;> omega
  | case2 first second =>
      have one := first.toNat_lt
      have two := second.toNat_lt
      simp only [encode, decodeGroups, digit_below, (digit_plain _).1, if_false, if_true, Option.bind_eq_bind,
        Option.bind_some, Option.some.injEq, List.cons.injEq, and_true]
      refine ⟨byte_read _ _ ?_, byte_read _ _ ?_⟩ <;> omega
  | case3 first =>
      have one := first.toNat_lt
      simp only [encode, decodeGroups, digit_below, if_true, Option.bind_eq_bind, Option.bind_some,
        Option.some.injEq, List.cons.injEq, and_true]
      exact byte_read _ _ (by omega)
  | case4 => rfl

@[simp] theorem decode_encode (bytes : GoString) : decode (encode bytes) = some bytes := by
  have kept : (encode bytes).filter (fun c => c ≠ 0x0A && c ≠ 0x0D) = encode bytes := by
    apply List.filter_eq_self.mpr
    intro c member
    simpa using (encode_plain bytes c member).2
  unfold decode
  rw [kept, decodeGroups_encode]

example : encode (text "panel!") = text "cGFuZWwh" := by decide

end Base64

end NodeAtlas
