import NodeAtlas.URL

/-! Decimal numbers as texts. -/

set_option autoImplicit false

namespace NodeAtlas

/-- `strconv.Itoa`, of numbers that are not negative. -/
def itoa (value : Nat) : GoString := (Nat.toDigits 10 value).map byte

/-- The digits of an integer. -/
def integerText (value : Int) : GoString :=
  if value < 0 then byte '-' :: itoa value.natAbs else itoa value.natAbs

/-- `strconv.Atoi`, of texts that have digits only. -/
def atoi (digits : GoString) : Nat :=
  digits.foldl (fun value digit => 10 * value + (digit.toNat - '0'.toNat)) 0

private theorem decimal_bounds {character : Char} (digit : character.isDigit = true) :
    48 ≤ character.toNat ∧ character.toNat ≤ 57 := by
  simp only [Char.isDigit, Bool.and_eq_true, decide_eq_true_eq] at digit
  exact digit

theorem itoa_digits (value : Nat) : (itoa value).all isDigit = true := by
  have every : ∀ value : Fin 256, 48 ≤ value.val ∧ value.val ≤ 57 →
      isDigit (UInt8.ofNat value) = true := by
    decide +kernel
  apply List.all_eq_true.mpr
  intro each present
  obtain ⟨character, listed, rfl⟩ := List.mem_map.mp present
  have bounds := decimal_bounds (Nat.isDigit_of_mem_toDigits (by omega) (by omega) listed)
  exact every ⟨character.toNat, by omega⟩ bounds

theorem atoi_concat (digits : GoString) (last : UInt8) :
    atoi (digits ++ [last]) = 10 * atoi digits + (last.toNat - '0'.toNat) := by
  simp [atoi]

theorem itoa_small {value : Nat} (small : value < 10) : itoa value = [byte (Nat.digitChar value)] := by
  unfold itoa
  rw [Nat.toDigits_of_lt_base small]
  rfl

/-- The last digit, behind the number without it. -/
theorem itoa_concat {value : Nat} (large : 10 ≤ value) :
    itoa value = itoa (value / 10) ++ [byte (Nat.digitChar (value % 10))] := by
  unfold itoa
  rw [Nat.toDigits_of_base_le (by omega) large, List.map_append]
  rfl

/-- A number is read back as itself. -/
@[simp] theorem atoi_itoa (value : Nat) : atoi (itoa value) = value := by
  have single : ∀ value : Fin 10, (byte (Nat.digitChar value.val)).toNat - '0'.toNat = value.val := by decide
  induction value using Nat.strongRecOn with
  | _ value ih =>
      by_cases small : value < 10
      · rw [itoa_small small, ← List.nil_append [_], atoi_concat, single ⟨value, small⟩]
        simp [atoi]
      · rw [itoa_concat (by omega), atoi_concat, ih (value / 10) (by omega),
          single ⟨value % 10, Nat.mod_lt _ (by omega)⟩]
        dsimp only
        omega

theorem itoa_injective {first second : Nat} (same : itoa first = itoa second) : first = second := by
  simpa using congrArg atoi same

theorem itoa_length {digits value : Nat} (small : value < 10 ^ (digits + 1)) : (itoa value).length ≤ digits + 1 := by
  induction digits generalizing value with
  | zero =>
      rw [itoa_small (by simpa using small)]
      exact Nat.le_refl _
  | succ digits ih =>
      rcases Nat.lt_or_ge value 10 with few | many
      · rw [itoa_small few]
        simp
      · have fewer : (itoa (value / 10)).length ≤ digits + 1 := ih (by rw [Nat.div_lt_iff_lt_mul (by decide), ← Nat.pow_succ]; exact small)
        rw [itoa_concat many, List.length_append, List.length_singleton]
        omega

theorem itoa_clean (value : Nat) {other : UInt8} (undigit : isDigit other = false) : other ∉ itoa value := by
  intro member
  have digit := List.all_eq_true.mp (itoa_digits value) other member
  rw [undigit] at digit
  cases digit

theorem integerText_clean (value : Int) {other : UInt8} (undigit : isDigit other = false)
    (unsigned : other ≠ byte '-') : other ∉ integerText value := by
  unfold integerText
  split
  · intro member
    cases List.mem_cons.mp member with
    | inl same => exact unsigned same
    | inr digit => exact itoa_clean _ undigit digit
  · exact itoa_clean _ undigit

theorem integerText_injective {left right : Int} (same : integerText left = integerText right) :
    left = right := by
  have signless : ∀ value rest, itoa value ≠ byte '-' :: rest := by
    intro value rest equal
    have member : byte '-' ∈ itoa value := by
      rw [equal]
      exact List.mem_cons_self
    exact itoa_clean value (by decide) member
  unfold integerText at same
  split at same
  · split at same
    · have numbers := itoa_injective (List.cons.inj same).2
      omega
    · exact absurd same.symm (signless _ _)
  · split at same
    · exact absurd same (signless _ _)
    · have numbers := itoa_injective same
      omega

/-- `strconv.ParseInt(value, 10, 64)`, whose errors are of no further use. -/
def parseInt (value : GoString) : Option Int :=
  let (negative, digits) :=
    match value with
    | 0x2D :: rest => (true, rest)
    | 0x2B :: rest => (false, rest)
    | _ => (false, value)
  if digits = [] || digits.all isDigit = false then none
  else
    let number : Int := if negative then -atoi digits else atoi digits
    if -2 ^ 63 ≤ number ∧ number < 2 ^ 63 then some number else none

theorem parseInt_bounds {value : GoString} {number : Int} (read : parseInt value = some number) :
    -2 ^ 63 ≤ number ∧ number < 2 ^ 63 := by
  unfold parseInt at read
  split at read
  next negative digits parts =>
    dsimp only at read
    rw [Option.ite_none_left_eq_some, Option.ite_none_right_eq_some] at read
    obtain ⟨_, fits, same⟩ := read
    rw [← Option.some.inj same]
    exact fits

theorem itoa_some (value : Nat) : itoa value ≠ [] := by
  unfold itoa
  simp

theorem parseInt_itoa {value : Nat} (fits : value < 2 ^ 63) : parseInt (itoa value) = some (value : Int) := by
  have digits := itoa_digits value
  have some_ := itoa_some value
  cases written : itoa value with
  | nil => exact absurd written some_
  | cons first rest =>
      have plain : first ≠ 0x2D ∧ first ≠ 0x2B := by
        rw [written, List.all_cons, Bool.and_eq_true] at digits
        constructor
        · rintro rfl
          exact absurd digits.1 (by decide)
        · rintro rfl
          exact absurd digits.1 (by decide)
      have number : atoi (first :: rest) = value := by rw [← written, atoi_itoa]
      rw [written] at digits
      unfold parseInt
      split
      next negative digits' parts =>
        split at parts
        · next same => exact absurd (List.cons.inj same).1 plain.1
        · next same => exact absurd (List.cons.inj same).1 plain.2
        · cases parts
          simp [digits, number]
          omega

/-- What an `int` can be. -/
def Fits (value : Int) : Prop := -2 ^ 63 ≤ value ∧ value < 2 ^ 63

/-- An integer that is written down is read again. -/
theorem parseInt_integerText {value : Int} (fits : Fits value) : parseInt (integerText value) = some value := by
  have most := fits.2
  have least := fits.1
  unfold integerText
  split
  · next negative =>
      have digits := itoa_digits value.natAbs
      have some_ := itoa_some value.natAbs
      have number := atoi_itoa value.natAbs
      unfold parseInt
      split
      next sign rest parts =>
        split at parts
        · next same =>
            cases parts
            obtain rfl := (List.cons.inj same).2
            have back : -(value.natAbs : Int) = value := by omega
            simp only [some_, digits, number, if_true, back]
            rw [if_neg (by decide), if_pos ⟨least, most⟩]
        · next same => exact absurd (List.cons.inj same).1 (by decide)
        · next other _ => exact absurd rfl (other _)
  · next positive =>
      rw [parseInt_itoa (by omega)]
      congr 1
      omega

/-- `strconv.ParseBool`. -/
def parseBool (value : GoString) : Option Bool :=
  if ["1", "t", "T", "TRUE", "true", "True"].any fun word => text word = value then some true
  else if ["0", "f", "F", "FALSE", "false", "False"].any fun word => text word = value then some false
  else none

example : parseInt (text "-9223372036854775808") = some (-2 ^ 63) := by decide

end NodeAtlas
