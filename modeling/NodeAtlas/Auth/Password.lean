import NodeAtlas.Decimal
import NodeAtlas.Digest

/-! Password hashes: how they are written and read again. -/

set_option autoImplicit false

namespace NodeAtlas.Auth

/-! ## Scanning -/

/-- `SkipSpace`, which takes no line ends; at most `bound` spaces. -/
def skipSpace : Nat → GoString → Option GoString
  | 0, input => some input
  | bound + 1, input =>
      match spaces.find? fun space => space.isPrefixOf input with
      | none => some input
      | some space => if space = [byte '\n'] then none else skipSpace bound (input.drop space.length)

/-- The plain characters of a format. -/
def scanText (expected input : GoString) : Option GoString :=
  if expected.isPrefixOf input then some (input.drop expected.length) else none

/-- The sign that `%d` takes for a signed number. -/
def scanSign : GoString → GoString × GoString
  | [] => ([], [])
  | first :: rest => if first = byte '+' ∨ first = byte '-' then ([first], rest) else ([], first :: rest)

/-- `%d` into an `int`. -/
def scanInt (input : GoString) : Option (Int × GoString) := do
  let (sign, rest) := scanSign (← skipSpace input.length input)
  let digits := rest.takeWhile isDigit
  if digits = [] then none
  else return (← parseInt (sign ++ digits), rest.dropWhile isDigit)

/-- `%d` into a `uint32`. -/
def scanUint32 (input : GoString) : Option (Nat × GoString) := do
  let rest ← skipSpace input.length input
  let digits := rest.takeWhile isDigit
  if digits = [] then none
  else if atoi digits < 2 ^ 32 then some (atoi digits, rest.dropWhile isDigit)
  else none

/-- `fmt.Sscanf` with `v=%d`; what follows the number is left. -/
def scanVersion (input : GoString) : Option Int := do
  let (version, _) ← scanInt (← scanText (text "v=") input)
  return version

/-- `fmt.Sscanf` with `m=%d,t=%d,p=%d`. -/
def scanParams (input : GoString) : Option (Nat × Nat × Nat) := do
  let (memory, afterMemory) ← scanUint32 (← scanText (text "m=") input)
  let (iterations, afterIterations) ← scanUint32 (← scanText (text ",t=") afterMemory)
  let (parallelism, _) ← scanUint32 (← scanText (text ",p=") afterIterations)
  return (memory, iterations, parallelism)

/-! ## Hashes -/

structure Argon2idParams where
  memory : Nat
  iterations : Nat
  parallelism : Nat
  saltLength : Nat
  keyLength : Nat
  deriving DecidableEq

/-- `argon2.IDKey`, whose key has the length that is asked for. -/
structure Argon2 where
  idKey (password salt : GoString) (iterations memory parallelism keyLength : Nat) : GoString
  idKey_length : ∀ password salt iterations memory parallelism keyLength,
    (idKey password salt iterations memory parallelism keyLength).length = keyLength

/-- `argon2.Version`. -/
def version : Nat := 0x13

def errPasswordEmpty : GoError := .plain (text "password must not be empty")

def errPasswordTooShort : GoError := .plain (text "password must contain at least 12 bytes")

def errPasswordTooLong : GoError := .plain (text "password exceeds 1024 bytes")

def validatePassword (password : GoString) : Option GoError :=
  if password = [] then some errPasswordEmpty
  else if password.length < 12 then some errPasswordTooShort
  else if 1024 < password.length then some errPasswordTooLong
  else none

/-- What a hash holds. -/
structure Stored where
  memory : Nat
  iterations : Nat
  parallelism : Nat
  salt : GoString
  key : GoString
  deriving DecidableEq

def format (stored : Stored) : GoString :=
  text "$argon2id$v=" ++ itoa version ++ text "$m=" ++ itoa stored.memory ++ text ",t=" ++ itoa stored.iterations ++
    text ",p=" ++ itoa stored.parallelism ++ text "$" ++ rawStdEncode stored.salt ++ text "$" ++
    rawStdEncode stored.key

section Hasher

variable (argon2 : Argon2) (params : Argon2idParams)

/-- `Hash`, with the salt that `rand.Read` makes, or with its error. -/
def hash (random : Except GoError GoString) (password : GoString) : Except GoError GoString := do
  match validatePassword password with
  | some failure => throw failure
  | none =>
      match random with
      | .error failure => throw (.wrapped (text "generate password salt") failure)
      | .ok salt =>
          let key := argon2.idKey password salt params.iterations params.memory params.parallelism params.keyLength
          return format ⟨params.memory, params.iterations, params.parallelism, salt, key⟩

/-- What `Verify` reads of a hash. -/
def decodeHash (encodedHash : GoString) : Except GoError Stored := do
  if 1024 < encodedHash.length then throw (.plain (text "encoded password hash is too large"))
  match encodedHash.splitOn (byte '$') with
  | [first, algorithm, versionPart, paramsPart, saltPart, keyPart] =>
      if first ≠ [] ∨ algorithm ≠ text "argon2id" then throw (.plain (text "invalid argon2id hash format"))
      if scanVersion versionPart ≠ some (version : Int) then
        throw (.plain (text "unsupported argon2id version"))
      match scanParams paramsPart with
      | none => throw (.plain (text "invalid argon2id parameters"))
      | some (memory, iterations, parallelism) =>
          if memory < 8 * 1024 ∨ 1024 * 1024 < memory ∨ iterations = 0 ∨ 20 < iterations ∨ parallelism = 0 ∨
              16 < parallelism then
            throw (.plain (text "argon2id parameters are outside safe bounds"))
          match rawStdDecode saltPart with
          | none => throw (.plain (text "invalid argon2id salt"))
          | some salt =>
              if salt.length < 8 ∨ 64 < salt.length then throw (.plain (text "invalid argon2id salt"))
              match rawStdDecode keyPart with
              | none => throw (.plain (text "invalid argon2id key"))
              | some key =>
                  if key.length < 16 ∨ 64 < key.length then throw (.plain (text "invalid argon2id key"))
                  return ⟨memory, iterations, parallelism, salt, key⟩
  | _ => throw (.plain (text "invalid argon2id hash format"))

def verify (encodedHash password : GoString) : Except GoError Bool := do
  match validatePassword password with
  | some failure => throw failure
  | none =>
      let stored ← decodeHash encodedHash
      let actual := argon2.idKey password stored.salt stored.iterations stored.memory stored.parallelism
        stored.key.length
      return actual = stored.key

end Hasher

/-! ## What is written is read -/

private theorem skipSpace_digit {first : UInt8} {rest : GoString} (digit : isDigit first = true) (bound : Nat) :
    skipSpace bound (first :: rest) = some (first :: rest) := by
  have spaces_ : (spaces.all fun space => space.head?.any fun c => !isDigit c) = true := by decide
  have none_ : (spaces.find? fun space => space.isPrefixOf (first :: rest)) = none := by
    apply List.find?_eq_none.mpr
    intro space listed begins
    have start := List.all_eq_true.mp spaces_ space listed
    cases space with
    | nil => cases start
    | cons c more =>
        rw [List.isPrefixOf_cons_cons, Bool.and_eq_true, beq_iff_eq] at begins
        rw [List.head?_cons, Option.any_some, begins.1, digit] at start
        cases start
  cases bound with
  | zero => rfl
  | succ bound => rw [skipSpace, none_]

private theorem scanText_append (expected rest : GoString) : scanText expected (expected ++ rest) = some rest := by
  unfold scanText
  rw [if_pos (by simp), List.drop_left]

private theorem scanUint32_itoa {value : Nat} {rest : GoString} (fits : value < 2 ^ 32)
    (ends : ∀ c ∈ rest.head?, isDigit c = false) : scanUint32 (itoa value ++ rest) = some (value, rest) := by
  have digits : ∀ c ∈ itoa value, isDigit c = true := List.all_eq_true.mp (itoa_digits value)
  have none_ : rest.takeWhile isDigit = [] ∧ rest.dropWhile isDigit = rest := by
    cases rest with
    | nil => exact ⟨rfl, rfl⟩
    | cons c more =>
        have other := ends c rfl
        simp [other]
  have start : skipSpace (itoa value ++ rest).length (itoa value ++ rest) = some (itoa value ++ rest) := by
    cases written : itoa value with
    | nil => exact absurd written (itoa_some value)
    | cons c more =>
        rw [List.cons_append]
        exact skipSpace_digit (digits c (by simp [written])) _
  unfold scanUint32
  rw [start]
  simp only [Option.bind_eq_bind, Option.bind_some, List.takeWhile_append_of_pos digits,
    List.dropWhile_append_of_pos digits, none_, List.append_nil, if_neg (itoa_some value), atoi_itoa, if_pos fits]

private theorem scanUint32_comma {value : Nat} (fits : value < 2 ^ 32) (name : String)
    (comma : (text name).head? = some (byte ',')) (rest : GoString) :
    scanUint32 (itoa value ++ (text name ++ rest)) = some (value, text name ++ rest) := by
  apply scanUint32_itoa fits
  intro c first
  rw [List.head?_append, comma, Option.some_or] at first
  cases first
  decide

/-- The part of a hash with its parameters. -/
def formatParams (stored : Stored) : GoString :=
  text "m=" ++ itoa stored.memory ++ text ",t=" ++ itoa stored.iterations ++ text ",p=" ++ itoa stored.parallelism

private theorem scanParams_format {stored : Stored} (memory : stored.memory < 2 ^ 32)
    (iterations : stored.iterations < 2 ^ 32) (parallelism : stored.parallelism < 2 ^ 32) :
    scanParams (formatParams stored) = some (stored.memory, stored.iterations, stored.parallelism) := by
  have last : scanUint32 (itoa stored.parallelism ++ []) = some (stored.parallelism, []) :=
    scanUint32_itoa parallelism nofun
  rw [List.append_nil] at last
  simp only [scanParams, formatParams, List.append_assoc, scanText_append, Option.bind_eq_bind, Option.bind_some,
    scanUint32_comma memory ",t=" rfl, scanUint32_comma iterations ",p=" rfl, last]
  rfl

private theorem itoa_undollared (value : Nat) : byte '$' ∉ itoa value := itoa_clean value (by decide)

private theorem formatParams_undollared (stored : Stored) : byte '$' ∉ formatParams stored := by
  have names : ∀ name ∈ ["m=", ",t=", ",p="], byte '$' ∉ text name := by decide
  simp only [List.forall_mem_cons] at names
  obtain ⟨memory, iterations, parallelism, _⟩ := names
  simp only [formatParams, List.mem_append, itoa_undollared, memory, iterations, parallelism, or_self,
    not_false_eq_true]

private theorem splitOn_format (stored : Stored) :
    (format stored).splitOn (byte '$') =
      [[], text "argon2id", text "v=19", formatParams stored, rawStdEncode stored.salt, rawStdEncode stored.key] := by
  have joined : format stored = [byte '$'].intercalate
      [[], text "argon2id", text "v=19", formatParams stored, rawStdEncode stored.salt,
        rawStdEncode stored.key] := by
    have start : text "$argon2id$v=" ++ itoa version =
        byte '$' :: text "argon2id" ++ byte '$' :: text "v=19" := by decide
    have params : text "$m=" = byte '$' :: text "m=" := rfl
    have dollar : text "$" = [byte '$'] := rfl
    simp only [format, start, params, dollar, formatParams, List.intercalate, List.intersperse, List.flatten_cons,
      List.flatten_nil, List.append_assoc, List.nil_append, List.append_nil, List.cons_append]
  have clean : ∀ part ∈ [[], text "argon2id", text "v=19", formatParams stored, rawStdEncode stored.salt,
      rawStdEncode stored.key], byte '$' ∉ part := by
    simp only [List.forall_mem_cons]
    exact ⟨List.not_mem_nil, by decide, by decide, formatParams_undollared stored, rawStdEncode_clean _,
      rawStdEncode_clean _, nofun⟩
  rw [joined, List.splitOn_intercalate _ clean (List.cons_ne_nil _ _)]

/-! ## Within the bounds -/

/-- What `Verify` accepts. -/
structure Safe (stored : Stored) : Prop where
  memoryLeast : 8 * 1024 ≤ stored.memory
  memoryMost : stored.memory ≤ 1024 * 1024
  iterationsLeast : 1 ≤ stored.iterations
  iterationsMost : stored.iterations ≤ 20
  parallelismLeast : 1 ≤ stored.parallelism
  parallelismMost : stored.parallelism ≤ 16
  saltLeast : 8 ≤ stored.salt.length
  saltMost : stored.salt.length ≤ 64
  keyLeast : 16 ≤ stored.key.length
  keyMost : stored.key.length ≤ 64

private theorem format_length {stored : Stored} (safe : Safe stored) : (format stored).length ≤ 1024 := by
  obtain ⟨_, memory, _, iterations, _, parallelism, _, salt, _, key⟩ := safe
  have memoryDigits : (itoa stored.memory).length ≤ 7 := itoa_length (by omega)
  have iterationsDigits : (itoa stored.iterations).length ≤ 2 := itoa_length (by omega)
  have parallelismDigits : (itoa stored.parallelism).length ≤ 2 := itoa_length (by omega)
  have saltDigits := rawStdEncode_length stored.salt
  have keyDigits := rawStdEncode_length stored.key
  have start : (text "$argon2id$v=").length + (itoa version).length + (text "$m=").length = 17 := by decide
  have commas : (text ",t=").length + (text ",p=").length = 6 := by decide
  have dollar : (text "$").length = 1 := by decide
  simp only [format, List.length_append]
  omega

theorem decodeHash_format {stored : Stored} (safe : Safe stored) : decodeHash (format stored) = .ok stored := by
  have length := format_length safe
  obtain ⟨memoryLeast, memoryMost, iterationsLeast, iterationsMost, parallelismLeast, parallelismMost, saltLeast,
    saltMost, keyLeast, keyMost⟩ := safe
  have version_ : scanVersion (text "v=19") = some (version : Int) := by decide
  have params : scanParams (formatParams stored) = some (stored.memory, stored.iterations, stored.parallelism) :=
    scanParams_format (by omega) (by omega) (by omega)
  unfold decodeHash
  rw [if_neg (by omega), splitOn_format]
  simp only [version_, params, rawStdDecode_encode]
  rw [if_neg (by simp), if_neg (by simp), if_neg (by omega), if_neg (by omega), if_neg (by omega)]
  rfl

/-! ## Passwords -/

section Passwords

variable (argon2 : Argon2) {params : Argon2idParams} {salt : GoString}

/-- The bounds of the parameters, and a salt of their length. -/
structure Bounded (params : Argon2idParams) (salt : GoString) : Prop where
  memoryLeast : 8192 ≤ params.memory
  memoryMost : params.memory ≤ 1048576
  iterationsLeast : 1 ≤ params.iterations
  iterationsMost : params.iterations ≤ 20
  parallelismLeast : 1 ≤ params.parallelism
  parallelismMost : params.parallelism ≤ 16
  saltLeast : 8 ≤ params.saltLength
  saltMost : params.saltLength ≤ 64
  keyLeast : 16 ≤ params.keyLength
  keyMost : params.keyLength ≤ 64
  salted : salt.length = params.saltLength

/-- The key of a password under the parameters and a salt. -/
def keyOf (params : Argon2idParams) (salt password : GoString) : GoString :=
  argon2.idKey password salt params.iterations params.memory params.parallelism params.keyLength

private theorem stored_safe (bounded : Bounded params salt) (password : GoString) :
    Safe ⟨params.memory, params.iterations, params.parallelism, salt, keyOf argon2 params salt password⟩ := by
  have length : (keyOf argon2 params salt password).length = params.keyLength := argon2.idKey_length _ _ _ _ _ _
  have salted := bounded.salted
  obtain ⟨memoryLeast, memoryMost, iterationsLeast, iterationsMost, parallelismLeast, parallelismMost, saltLeast,
    saltMost, keyLeast, keyMost, _⟩ := bounded
  refine ⟨memoryLeast, memoryMost, iterationsLeast, iterationsMost, parallelismLeast, parallelismMost, ?_, ?_, ?_, ?_⟩
  all_goals
    dsimp only
    omega

private theorem validatePassword_none {password : GoString} :
    validatePassword password = none ↔ 12 ≤ password.length ∧ password.length ≤ 1024 := by
  unfold validatePassword
  by_cases empty : password = []
  · simp [empty]
  · rw [if_neg empty]
    split
    · simp
      omega
    · split
      · simp
        omega
      · simp
        omega

/-- What `Verify` makes of what `Hash` wrote. -/
structure RoundTrip (params : Argon2idParams) (salt p encodedHash : GoString) : Prop where
  recovered : decodeHash encodedHash =
    .ok ⟨params.memory, params.iterations, params.parallelism, salt, keyOf argon2 params salt p⟩
  verified : ∀ q : GoString, 12 ≤ q.length → q.length ≤ 1024 →
    verify argon2 encodedHash q = .ok (decide (keyOf argon2 params salt q = keyOf argon2 params salt p))
  rejected : ∀ q failure, hash argon2 params (.ok salt) q = .error failure ↔ verify argon2 encodedHash q = .error failure

theorem hashes_round_trip (bounded : Bounded params salt) {p : GoString} (least : 12 ≤ p.length)
    (most : p.length ≤ 1024) :
    ∃ encodedHash, hash argon2 params (.ok salt) p = .ok encodedHash ∧ RoundTrip argon2 params salt p encodedHash := by
  have accepted := validatePassword_none.mpr ⟨least, most⟩
  have length := argon2.idKey_length
  have recovered := decodeHash_format (stored_safe argon2 bounded p)
  have verified : ∀ q, validatePassword q = none →
      verify argon2 (format ⟨params.memory, params.iterations, params.parallelism, salt, keyOf argon2 params salt p⟩) q =
        .ok (decide (keyOf argon2 params salt q = keyOf argon2 params salt p)) := by
    intro q valid
    unfold verify
    rw [valid, recovered]
    have same : (keyOf argon2 params salt p).length = params.keyLength := length _ _ _ _ _ _
    show Except.ok (decide (argon2.idKey q salt params.iterations params.memory params.parallelism
      (keyOf argon2 params salt p).length = _)) = _
    rw [same]
    rfl
  refine ⟨_, by unfold hash; rw [accepted]; rfl, recovered, ?_, ?_⟩
  · intro q least most
    exact verified q (validatePassword_none.mpr ⟨least, most⟩)
  · intro q failure
    cases valid : validatePassword q with
    | none =>
        have written : ∃ hashed, hash argon2 params (.ok salt) q = .ok hashed := by
          unfold hash
          rw [valid]
          exact ⟨_, rfl⟩
        obtain ⟨hashed, written⟩ := written
        rw [written, show verify argon2 _ q = _ from verified q valid]
        simp
    | some refusal =>
        unfold hash verify
        rw [valid]
        show (Except.error refusal : Except GoError GoString) = _ ↔ (Except.error refusal : Except GoError Bool) = _
        rw [Except.error.injEq, Except.error.injEq]

end Passwords

/-- Its key for the password `correct horse` and the salt `saltsalt` with 8 MiB,
one iteration and one lane. -/
def recordedKey : GoString :=
  [0xf1, 0xde, 0x97, 0x73, 0x26, 0xdc, 0xd8, 0x68, 0x19, 0x55, 0xd5, 0x73, 0xad, 0xfc, 0x95, 0x8c]

def recorded : Argon2 where
  idKey _ _ _ _ _ keyLength := (recordedKey ++ List.replicate (keyLength - 16) 0).take keyLength
  idKey_length := by
    intro _ _ _ _ _ keyLength
    have sixteen : recordedKey.length = 16 := rfl
    rw [List.length_take, List.length_append, List.length_replicate, sixteen]
    omega

theorem hashes_round_trip_horse :
    ∃ encodedHash, hash recorded ⟨8192, 1, 1, 8, 16⟩ (.ok (text "saltsalt")) (text "correct horse") = .ok encodedHash ∧
      RoundTrip recorded ⟨8192, 1, 1, 8, 16⟩ (text "saltsalt") (text "correct horse") encodedHash :=
  hashes_round_trip recorded
    ⟨by decide, by decide, by decide, by decide, by decide, by decide, by decide, by decide, by decide, by decide,
      by decide⟩
    (by decide) (by decide)

end NodeAtlas.Auth
