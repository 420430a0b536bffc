import NodeAtlas.Net
import NodeAtlas.URL.Hosts

/-! `netip.ParseAddr` and `net.ParseCIDR`, and the texts that they read back. -/

set_option autoImplicit false

namespace NodeAtlas

namespace IP

/-! ## Reading addresses -/

/-- The value and the number of the digits of an octet so far. -/
structure Octet where
  value : Nat
  digits : Nat
  deriving DecidableEq

def Octet.digit (octet : Octet) (c : UInt8) : Option Octet :=
  if octet.digits = 1 ∧ octet.value = 0 then none
  else
    let value := 10 * octet.value + (c.toNat - 48)
    if 255 < value then none else some ⟨value, octet.digits + 1⟩

/-- The octets before the one that is being read. -/
def octetStep (state : List UInt8 × Octet) (c : UInt8) : Option (List UInt8 × Octet) :=
  if isDigit c then (state.2.digit c).map fun octet => (state.1, octet)
  else if c = byte '.' then
    if state.2.digits = 0 ∨ state.1.length = 3 then none
    else some (state.1 ++ [UInt8.ofNat state.2.value], ⟨0, 0⟩)
  else none

def parseIPv4Fields (value : GoString) : Option (List UInt8) := do
  let (octets, last) ← value.foldlM octetStep ([], ⟨0, 0⟩)
  if octets.length = 3 ∧ last.digits ≠ 0 then some (octets ++ [UInt8.ofNat last.value]) else none

def isHexDigit (c : UInt8) : Bool := (URL.unhex c).isSome

def hexValue (digits : GoString) : Nat := digits.foldl (fun value c => 16 * value + (URL.unhex c).getD 0) 0

/-- The two bytes of a group. -/
def groupBytes (group : Nat) : List UInt8 := [UInt8.ofNat (group / 256), UInt8.ofNat group]

/-- The loop of `parseIPv6`: at most `bound` groups, the bytes that were read,
and where among them the ellipsis stands. -/
def parseGroups : Nat → List UInt8 → Option Nat → GoString → Option (List UInt8 × Option Nat × GoString)
  | 0, bytes, ellipsis, value => some (bytes, ellipsis, value)
  | bound + 1, bytes, ellipsis, value =>
      let digits := value.takeWhile isHexDigit
      if digits = [] ∨ 4 < digits.length then none
      else
        match value.drop digits.length with
        | [] => some (bytes ++ groupBytes (hexValue digits), ellipsis, [])
        | first :: behind =>
            if first = byte '.' then
              if (ellipsis = none ∧ bytes.length ≠ 12) ∨ 16 < bytes.length + 4 then none
              else (parseIPv4Fields value).map fun octets => (bytes ++ octets, ellipsis, [])
            else if first ≠ byte ':' then none
            else
              let bytes := bytes ++ groupBytes (hexValue digits)
              match behind with
              | [] => none
              | second :: more =>
                  if second ≠ byte ':' then parseGroups bound bytes ellipsis behind
                  else if ellipsis ≠ none then none
                  else if more = [] then some (bytes, some bytes.length, [])
                  else parseGroups bound bytes (some bytes.length) more

/-- The zeros that an ellipsis stands for. -/
def expand (bytes : List UInt8) (ellipsis : Option Nat) : Option (List UInt8) :=
  match ellipsis with
  | none => if bytes.length = 16 then some bytes else none
  | some place =>
      if bytes.length < 16 then some (bytes.take place ++ List.replicate (16 - bytes.length) 0 ++ bytes.drop place)
      else none

/-- `parseIPv6`: the bytes, and the zone. -/
def parseIPv6 (value : GoString) : Option (List UInt8 × GoString) := do
  let (value, zone) := cut (byte '%') value
  if zone = some [] then none
  else if value = text "::" then some (List.replicate 16 0, zone.getD [])
  else
    let leading := (text "::").isPrefixOf value
    let (bytes, ellipsis, rest) ←
      parseGroups 8 [] (if leading then some 0 else none) (if leading then value.drop 2 else value)
    if rest ≠ [] then none else return (← expand bytes ellipsis, zone.getD [])

def ofBytes (bytes : List UInt8) : Option IP :=
  if sized : bytes.length = 4 ∨ bytes.length = 16 then some ⟨bytes, sized⟩ else none

/-- `netip.ParseAddr`: an address, and its zone. -/
def parseAddr (value : GoString) : Option (IP × GoString) :=
  match value.find? fun c => c = byte '.' || c = byte ':' || c = byte '%' with
  | none => none
  | some c =>
      if c = byte '.' then do return (← ofBytes (← parseIPv4Fields value), [])
      else if c = byte ':' then do
        let (bytes, zone) ← parseIPv6 value
        return (← ofBytes bytes, zone)
      else none

/-! ## Masks -/

def maskByte (ones : Nat) : UInt8 := if 8 ≤ ones then 0xFF else ~~~(0xFF >>> UInt8.ofNat ones)

/-- `CIDRMask`, for as many bytes. -/
def cidrMask (ones length : Nat) : List UInt8 := (List.range length).map fun index => maskByte (ones - 8 * index)

@[simp] theorem cidrMask_length (ones length : Nat) : (cidrMask ones length).length = length := by
  simp [cidrMask]

def simpleMaskLength : List UInt8 → Option Nat
  | [] => some 0
  | first :: rest =>
      if first = 0xFF then (simpleMaskLength rest).map fun ones => 8 + ones
      else if rest.all fun c => c = 0 then (List.range 8).find? fun ones => first = maskByte ones
      else none

def truncated (address : IP) (ones : Nat) : IP where
  bytes := List.zipWith (· &&& ·) address.bytes (cidrMask ones address.bytes.length)
  sized := by simpa using address.sized

end IP

/-- `Mask.Size` -/
def IPNet.size (network : IPNet) : Nat × Nat :=
  match IP.simpleMaskLength network.mask with
  | none => (0, 0)
  | some ones => (ones, 8 * network.mask.length)

/-- `net.ParseCIDR`, less the address itself. -/
def parseCIDR (value : GoString) : Option IPNet :=
  match cut (byte '/') value with
  | (_, none) => none
  | (before, some mask) => do
      let (address, zone) ← IP.parseAddr before
      if zone ≠ [] ∨ mask = [] ∨ mask.all isDigit = false ∨ 8 * address.bytes.length < atoi mask then none
      else return ⟨address.truncated (atoi mask), IP.cidrMask (atoi mask) address.bytes.length⟩

/-- `String`, of a network whose mask is a prefix. -/
def IPNet.string (network : IPNet) : GoString :=
  let mask := if network.mask.length = 16 ∧ network.address.to4 ≠ none then network.mask.drop 12 else network.mask
  match IP.simpleMaskLength mask with
  | none => network.address.string ++ byte '/' :: mask.flatMap fun c =>
      [URL.hexDigits.getD (c.toNat / 16) 0, URL.hexDigits.getD (c.toNat % 16) 0].map lowerByte
  | some ones => network.address.string ++ byte '/' :: itoa ones

example : (parseCIDR (text "10.1.2.3/14")).map IPNet.string = some (text "10.0.0.0/14") := by decide

example : (parseCIDR (text "fd00:0:0:1::a0/100")).map IPNet.string = some (text "fd00:0:0:1::/100") := by decide

namespace IP

/-! ## Dotted texts -/

def dotted (octets : List UInt8) : GoString := List.intercalate (text ".") (octets.map fun octet => itoa octet.toNat)

private theorem octet_read : ∀ value : Fin 256,
    (itoa value).foldlM Octet.digit ⟨0, 0⟩ = some ⟨value, (itoa value).length⟩ := by
  decide +kernel

private theorem digits_octets {digits : GoString} (all : ∀ c ∈ digits, isDigit c = true) (octets : List UInt8)
    (octet : Octet) :
    digits.foldlM octetStep (octets, octet) = (digits.foldlM Octet.digit octet).map fun last => (octets, last) := by
  induction digits generalizing octet with
  | nil => rfl
  | cons c rest ih =>
      obtain ⟨digit, others⟩ := List.forall_mem_cons.mp all
      rw [List.foldlM_cons, List.foldlM_cons, octetStep, if_pos digit]
      cases octet.digit c with
      | none => rfl
      | some next => exact ih others next

private theorem octet_octets (octets : List UInt8) (value : UInt8) :
    (itoa value.toNat).foldlM octetStep (octets, ⟨0, 0⟩) =
      some (octets, ⟨value.toNat, (itoa value.toNat).length⟩) := by
  rw [digits_octets (List.all_eq_true.mp (itoa_digits _)), octet_read ⟨value.toNat, value.toNat_lt⟩]
  rfl

private theorem dot_octets {octets : List UInt8} (few : octets.length < 3) (value : UInt8) :
    octetStep (octets, ⟨value.toNat, (itoa value.toNat).length⟩) (byte '.') = some (octets ++ [value], ⟨0, 0⟩) := by
  have digits : (itoa value.toNat).length ≠ 0 := by simpa using itoa_some value.toNat
  have dot : ¬isDigit (byte '.') = true := by decide
  rw [octetStep, if_neg dot, if_pos rfl, if_neg (by simp [digits]; omega)]
  simp

private theorem dotted_four (a b c d : UInt8) : dotted [a, b, c, d] =
    itoa a.toNat ++ byte '.' :: (itoa b.toNat ++ byte '.' :: (itoa c.toNat ++ byte '.' :: itoa d.toNat)) := by
  have dot : text "." = [byte '.'] := rfl
  simp [dotted, dot, List.intercalate]

theorem parseIPv4Fields_dotted (a b c d : UInt8) : parseIPv4Fields (dotted [a, b, c, d]) = some [a, b, c, d] := by
  have digits : (itoa d.toNat).length ≠ 0 := by simpa using itoa_some d.toNat
  unfold parseIPv4Fields
  rw [dotted_four]
  simp only [List.foldlM_append, List.foldlM_cons, octet_octets, Option.bind_eq_bind, Option.bind_some]
  rw [dot_octets (by decide)]
  simp only [octet_octets, Option.bind_some, List.nil_append]
  rw [dot_octets (by simp)]
  simp only [octet_octets, Option.bind_some, List.cons_append, List.nil_append]
  rw [dot_octets (by simp)]
  simp only [octet_octets, Option.bind_some]
  simp [digits]

/-! ## Groups -/

def hexText (group : Nat) : GoString := (Nat.toDigits 16 group).map byte

private theorem hexText_small {group : Nat} (small : group < 16) : hexText group = [byte (Nat.digitChar group)] := by
  unfold hexText
  rw [Nat.toDigits_of_lt_base small]
  rfl

private theorem hexText_concat {group : Nat} (large : 16 ≤ group) :
    hexText group = hexText (group / 16) ++ [byte (Nat.digitChar (group % 16))] := by
  unfold hexText
  have step := Nat.toDigits_append_toDigits (b := 16) (n := group / 16) (d := group % 16) (by decide) (by omega) (by omega)
  rw [Nat.div_add_mod, Nat.toDigits_of_lt_base (by omega : group % 16 < 16)] at step
  rw [← step, List.map_append]
  rfl

private theorem hexDigit_read : ∀ digit : Fin 16, URL.unhex (byte (Nat.digitChar digit)) = some digit.val := by
  decide

private theorem hexDigit_hex {digit : Nat} (small : digit < 16) : isHexDigit (byte (Nat.digitChar digit)) = true := by
  rw [isHexDigit, hexDigit_read ⟨digit, small⟩, Option.isSome_some]

private theorem hexValue_concat (digits : GoString) {digit : Nat} (small : digit < 16) :
    hexValue (digits ++ [byte (Nat.digitChar digit)]) = 16 * hexValue digits + digit := by
  have read := hexDigit_read ⟨digit, small⟩
  dsimp only at read
  simp [hexValue, read]

/-- What the text of a group is read as. -/
structure HexText (most : Nat) (group : Nat) (digits : GoString) : Prop where
  some_ : digits ≠ []
  length : digits.length ≤ most
  value : hexValue digits = group
  hex : ∀ c ∈ digits, isHexDigit c = true

private theorem hexText_single {most group : Nat} (small : group < 16) : HexText (most + 1) group (hexText group) := by
  rw [hexText_small small]
  refine ⟨List.cons_ne_nil _ _, by simp, ?_, ?_⟩
  · have empty : hexValue [] = 0 := rfl
    have value := hexValue_concat [] small
    rwa [List.nil_append, empty, Nat.mul_zero, Nat.zero_add] at value
  · intro c member
    rw [List.mem_singleton.mp member]
    exact hexDigit_hex small

private theorem hexText_read {digits group : Nat} (fits : group < 16 ^ (digits + 1)) :
    HexText (digits + 1) group (hexText group) := by
  induction digits generalizing group with
  | zero => exact hexText_single (by simpa using fits)
  | succ digits ih =>
      rcases Nat.lt_or_ge group 16 with small | large
      · exact hexText_single small
      · have digit : group % 16 < 16 := Nat.mod_lt _ (by decide)
        have rest : HexText (digits + 1) (group / 16) (hexText (group / 16)) :=
          ih (by rw [Nat.div_lt_iff_lt_mul (by decide), ← Nat.pow_succ]; exact fits)
        obtain ⟨_, length, value, hex⟩ := rest
        rw [hexText_concat large]
        refine ⟨by simp, by simpa using length, ?_, ?_⟩
        · rw [hexValue_concat _ digit, value, Nat.div_add_mod]
        · intro c member
          rcases List.mem_append.mp member with earlier | last
          · exact hex c earlier
          · rw [List.mem_singleton.mp last]
            exact hexDigit_hex digit

private theorem hexText_group {group : Nat} (fits : group < 65536) : HexText 4 group (hexText group) := by
  have read : HexText (3 + 1) group (hexText group) := hexText_read (by omega)
  exact read

section Steps

variable {bound group : Nat} {bytes : List UInt8} (fits : group < 65536)
include fits

private theorem hexText_taken {rest : GoString} (ends : ∀ c ∈ rest.head?, isHexDigit c = false) :
    (hexText group ++ rest).takeWhile isHexDigit = hexText group := by
  have none_ : rest.takeWhile isHexDigit = [] := by
    cases rest with
    | nil => rfl
    | cons c more => rw [List.takeWhile_cons_of_neg (by simp [ends c rfl])]
  rw [List.takeWhile_append_of_pos (hexText_group fits).hex, none_, List.append_nil]

private theorem group_last (ellipsis : Option Nat) :
    parseGroups (bound + 1) bytes ellipsis (hexText group) = some (bytes ++ groupBytes group, ellipsis, []) := by
  obtain ⟨some_, length, value, _⟩ := hexText_group fits
  have taken : (hexText group ++ []).takeWhile isHexDigit = hexText group := hexText_taken fits nofun
  rw [List.append_nil] at taken
  rw [parseGroups]
  simp only [taken, some_, value, List.drop_length, false_or, Nat.not_lt.mpr length, if_false]

private theorem group_colon {ellipsis : Option Nat} {second : UInt8} {more : GoString} (apart : second ≠ byte ':') :
    parseGroups (bound + 1) bytes ellipsis (hexText group ++ byte ':' :: second :: more) =
      parseGroups bound (bytes ++ groupBytes group) ellipsis (second :: more) := by
  obtain ⟨some_, length, value, _⟩ := hexText_group fits
  have colon : ∀ c ∈ (byte ':' :: second :: more).head?, isHexDigit c = false := by
    rintro c ⟨⟩
    decide
  have other : byte ':' ≠ byte '.' := by decide
  rw [parseGroups]
  simp only [hexText_taken fits colon, some_, value, List.drop_left, false_or, Nat.not_lt.mpr length, if_false, other,
    ne_eq, not_true_eq_false, apart, not_false_eq_true, if_true]

private theorem group_ellipsis (more : GoString) :
    parseGroups (bound + 1) bytes none (hexText group ++ byte ':' :: byte ':' :: more) =
      if more = [] then some (bytes ++ groupBytes group, some (bytes ++ groupBytes group).length, [])
      else parseGroups bound (bytes ++ groupBytes group) (some (bytes ++ groupBytes group).length) more := by
  obtain ⟨some_, length, value, _⟩ := hexText_group fits
  have colon : ∀ c ∈ (byte ':' :: byte ':' :: more).head?, isHexDigit c = false := by
    rintro c ⟨⟩
    decide
  have other : byte ':' ≠ byte '.' := by decide
  rw [parseGroups]
  simp only [hexText_taken fits colon, some_, value, List.drop_left, false_or, Nat.not_lt.mpr length, if_false, other,
    ne_eq, not_true_eq_false]

end Steps

private theorem hexText_cons {group : Nat} (fits : group < 65536) :
    ∃ first rest, hexText group = first :: rest ∧ first ≠ byte ':' := by
  obtain ⟨some_, _, _, hex⟩ := hexText_group fits
  cases written : hexText group with
  | nil => exact absurd written some_
  | cons first rest =>
      refine ⟨first, rest, rfl, ?_⟩
      rintro rfl
      have digit := hex (byte ':') (by simp [written])
      exact absurd digit (by decide)

private theorem colons_cons (group : Nat) {groups : List Nat} (some_ : groups ≠ []) :
    colons (group :: groups) = hexText group ++ byte ':' :: colons groups := by
  cases groups with
  | nil => exact absurd rfl some_
  | cons next rest =>
      have colon : text ":" = [byte ':'] := rfl
      simp [colons, colon, List.intercalate, hexText]

private theorem colons_first {groups : List Nat} (some_ : groups ≠ []) (fits : ∀ group ∈ groups, group < 65536) :
    ∃ first rest, colons groups = first :: rest ∧ first ≠ byte ':' := by
  cases groups with
  | nil => exact absurd rfl some_
  | cons group others =>
      obtain ⟨first, rest, written, apart⟩ := hexText_cons (fits group List.mem_cons_self)
      by_cases single : others = []
      · subst single
        refine ⟨first, rest, ?_, apart⟩
        simpa [colons, List.intercalate, hexText] using written
      · refine ⟨first, rest ++ byte ':' :: colons others, ?_, apart⟩
        rw [colons_cons group single, written, List.cons_append]

/-- Groups with colons between them are read in their order. -/
theorem colons_read {groups : List Nat} {bound : Nat} {bytes : List UInt8} {ellipsis : Option Nat}
    (some_ : groups ≠ []) (fits : ∀ group ∈ groups, group < 65536) (room : groups.length ≤ bound) :
    parseGroups bound bytes ellipsis (colons groups) = some (bytes ++ groups.flatMap groupBytes, ellipsis, []) := by
  induction groups generalizing bound bytes with
  | nil => exact absurd rfl some_
  | cons group rest ih =>
      obtain ⟨here, others⟩ := List.forall_mem_cons.mp fits
      obtain ⟨bound, rfl⟩ : ∃ less, bound = less + 1 := ⟨bound - 1, by rw [List.length_cons] at room; omega⟩
      by_cases single : rest = []
      · subst single
        have last : colons [group] = hexText group := by simp [colons, List.intercalate, hexText]
        rw [last, group_last here]
        simp
      · obtain ⟨first, more, written, apart⟩ := colons_first single others
        rw [colons_cons group single, written, group_colon here apart, ← written,
          ih single others (by rw [List.length_cons] at room; omega)]
        simp

/-- The ellipsis stands behind the groups that came before it. -/
theorem ellipsis_read {front behind : List Nat} {bound : Nat} {bytes : List UInt8} (some_ : front ≠ [])
    (fits : ∀ group ∈ front, group < 65536) (behindFits : ∀ group ∈ behind, group < 65536)
    (room : front.length + behind.length ≤ bound) :
    parseGroups bound bytes none (colons front ++ text "::" ++ colons behind) =
      some (bytes ++ front.flatMap groupBytes ++ behind.flatMap groupBytes,
        some (bytes ++ front.flatMap groupBytes).length, []) := by
  have marks : text "::" = [byte ':', byte ':'] := rfl
  induction front generalizing bound bytes with
  | nil => exact absurd rfl some_
  | cons group rest ih =>
      obtain ⟨here, others⟩ := List.forall_mem_cons.mp fits
      obtain ⟨bound, rfl⟩ : ∃ less, bound = less + 1 := ⟨bound - 1, by rw [List.length_cons] at room; omega⟩
      rw [List.length_cons] at room
      by_cases single : rest = []
      · subst single
        have last : colons [group] = hexText group := by simp [colons, List.intercalate, hexText]
        rw [last, marks, List.append_assoc, List.cons_append, List.cons_append, List.nil_append, group_ellipsis here]
        by_cases none_ : behind = []
        · subst none_
          have empty : colons [] = [] := rfl
          simp [empty]
        · obtain ⟨first, more, written, _⟩ := colons_first none_ behindFits
          rw [if_neg (by simp [written]), colons_read none_ behindFits (by omega)]
          simp
      · obtain ⟨first, more, written, apart⟩ := colons_first single others
        have following : colons rest ++ text "::" ++ colons behind =
            first :: (more ++ text "::" ++ colons behind) := by
          rw [written]
          simp
        have split_ : colons (group :: rest) ++ text "::" ++ colons behind =
            hexText group ++ byte ':' :: (colons rest ++ text "::" ++ colons behind) := by
          rw [colons_cons group single]
          simp
        rw [split_, following, group_colon here apart, ← following, ih single others (by omega)]
        simp

/-! ## Whole addresses -/

private theorem groupBytes_bytes (high low : UInt8) : groupBytes (256 * high.toNat + low.toNat) = [high, low] := by
  have below := low.toNat_lt
  have first : (256 * high.toNat + low.toNat) / 256 = high.toNat := by omega
  have second : UInt8.ofNat (256 * high.toNat + low.toNat) = low := by
    apply UInt8.toNat_inj.mp
    simp
  rw [groupBytes, first, second, UInt8.ofNat_toNat]

private theorem groups_bytes {address : IP} (six : address.bytes.length = 16) :
    address.groups.flatMap groupBytes = address.bytes := by
  have pairs : ∀ count, count ≤ 8 →
      ((List.range count).map fun index =>
        256 * (address.bytes.getD (2 * index) 0).toNat + (address.bytes.getD (2 * index + 1) 0).toNat).flatMap
          groupBytes = address.bytes.take (2 * count) := by
    intro count
    induction count with
    | zero => simp
    | succ count ih =>
        intro inside
        rw [List.range_succ, List.map_append, List.flatMap_append, ih (by omega)]
        simp only [List.map_cons, List.map_nil, List.flatMap_cons, List.flatMap_nil, List.append_nil, groupBytes_bytes]
        have low : 2 * count < address.bytes.length := by omega
        have high : 2 * count + 1 < address.bytes.length := by omega
        rw [show 2 * (count + 1) = 2 * count + 1 + 1 by omega, List.take_succ_eq_append_getElem high,
          List.take_succ_eq_append_getElem low, List.append_assoc]
        simp [List.getD_eq_getElem?_getD, low, high]
  have all := pairs 8 (Nat.le_refl _)
  rwa [List.take_of_length_le (by omega)] at all

private theorem groups_fit (address : IP) : ∀ group ∈ address.groups, group < 65536 := by
  intro group member
  obtain ⟨index, _, rfl⟩ := List.mem_map.mp member
  have high := (address.bytes.getD (2 * index) 0).toNat_lt
  have low := (address.bytes.getD (2 * index + 1) 0).toNat_lt
  omega

private theorem zeros_split (groups : List Nat) (index : Nat) :
    groups = groups.take index ++ List.replicate (zeros groups index) 0 ++ groups.drop (index + zeros groups index) := by
  have run : (groups.drop index).takeWhile (fun group => group = 0) = List.replicate (zeros groups index) 0 := by
    refine List.eq_replicate_iff.mpr ⟨rfl, ?_⟩
    intro group member
    exact of_decide_eq_true (List.all_eq_true.mp List.all_takeWhile group member)
  have front : (groups.drop index).take (zeros groups index) = List.replicate (zeros groups index) 0 := by
    rw [← run]
    exact (List.prefix_iff_eq_take.mp (List.takeWhile_prefix _)).symm
  rw [← front, ← List.drop_drop, List.append_assoc, List.take_append_drop, List.take_append_drop]

private theorem colons_bytes {groups : List Nat} (fits : ∀ group ∈ groups, group < 65536) :
    ∀ c ∈ colons groups, isHexDigit c = true ∨ c = byte ':' := by
  induction groups with
  | nil => nofun
  | cons group rest ih =>
      obtain ⟨here, others⟩ := List.forall_mem_cons.mp fits
      have hex := (hexText_group here).hex
      by_cases single : rest = []
      · subst single
        have last : colons [group] = hexText group := by simp [colons, List.intercalate, hexText]
        intro c member
        rw [last] at member
        exact .inl (hex c member)
      · intro c member
        rw [colons_cons group single, List.mem_append, List.mem_cons] at member
        rcases member with digit | colon | later
        · exact .inl (hex c digit)
        · exact .inr colon
        · exact ih others c later

/-- An address that is no IPv4 address and does not begin with zeros. -/
structure Leading (address : IP) : Prop where
  six : address.bytes.length = 16
  other : address.to4 = none
  first : zeros address.groups 0 = 0

private theorem groups_length (address : IP) : address.groups.length = 8 := by simp [groups]

private theorem string_bytes {address : IP} (leading : Leading address) :
    ∀ c ∈ address.string, isHexDigit c = true ∨ c = byte ':' := by
  have fits := groups_fit address
  unfold string
  rw [leading.other]
  dsimp only
  split
  · exact colons_bytes fits
  · intro c member
    rw [List.mem_append, List.mem_append] at member
    rcases member with (front | marks) | behind
    · exact colons_bytes (fun group listed => fits group (List.mem_of_mem_take listed)) c front
    · have colons_ : ∀ c ∈ text "::", c = byte ':' := by
        intro c listed
        have two : text "::" = [byte ':', byte ':'] := rfl
        simpa [two] using listed
      exact .inr (colons_ c marks)
    · exact colons_bytes (fun group listed => fits group (List.mem_of_mem_drop listed)) c behind

private theorem string_clean {address : IP} (leading : Leading address) {c : UInt8} (undigit : isHexDigit c = false)
    (apart : c ≠ byte ':') : c ∉ address.string := by
  intro member
  rcases string_bytes leading c member with digit | colon
  · rw [undigit] at digit
    cases digit
  · exact apart colon

private theorem zeros_bytes (count : Nat) :
    (List.replicate count 0).flatMap groupBytes = List.replicate (2 * count) (0 : UInt8) := by
  induction count with
  | zero => rfl
  | succ count ih =>
      have two : groupBytes 0 = [0, 0] := rfl
      rw [List.replicate_succ, List.flatMap_cons, ih, two, Nat.mul_succ, List.replicate_succ, List.replicate_succ]
      rfl

private theorem expand_run {front behind : List UInt8} {count : Nat} (some_ : 0 < count)
    (room : front.length + count + behind.length = 16) :
    expand (front ++ behind) (some front.length) = some (front ++ List.replicate count 0 ++ behind) := by
  have length : (front ++ behind).length = front.length + behind.length := List.length_append
  have missing : 16 - (front ++ behind).length = count := by omega
  rw [expand, missing, if_pos (by omega), List.take_left, List.drop_left]

/-- The loop reads the groups of such a text. -/
private theorem parseGroups_string {address : IP} (leading : Leading address) :
    ∃ bytes ellipsis, parseGroups 8 [] none address.string = some (bytes, ellipsis, []) ∧
      expand bytes ellipsis = some address.bytes ∧
        ∃ first rest, address.string = first :: rest ∧ first ≠ byte ':' := by
  have fits := groups_fit address
  have length := groups_length address
  have whole := groups_bytes leading.six
  have some_ : address.groups ≠ [] := List.ne_nil_of_length_eq_add_one length
  unfold string
  rw [leading.other]
  dsimp only
  split
  · refine ⟨_, _, colons_read some_ fits (by omega), ?_, colons_first some_ fits⟩
    rw [List.nil_append, whole, expand, if_pos leading.six]
  · next index found =>
    have chosen := List.find?_some found
    rw [Bool.and_eq_true, decide_eq_true_eq] at chosen
    have run := zeros_split address.groups index
    have many : 2 ≤ zeros address.groups index := chosen.1
    have place : index < 8 := List.mem_range.mp (List.mem_of_find?_eq_some found)
    have moved : index ≠ 0 := by
      rintro rfl
      have first := leading.first
      omega
    have front : address.groups.take index ≠ [] := by simp [moved, some_]
    have frontFits : ∀ group ∈ address.groups.take index, group < 65536 := fun group listed =>
      fits group (List.mem_of_mem_take listed)
    have behindFits : ∀ group ∈ address.groups.drop (index + zeros address.groups index), group < 65536 :=
      fun group listed => fits group (List.mem_of_mem_drop listed)
    refine ⟨_, _, ellipsis_read front frontFits behindFits ?_, ?_, ?_⟩
    · simp only [List.length_take, List.length_drop]
      omega
    · have bytes : (address.groups.take index).flatMap groupBytes ++
          List.replicate (2 * zeros address.groups index) 0 ++
            (address.groups.drop (index + zeros address.groups index)).flatMap groupBytes = address.bytes := by
        rw [← zeros_bytes, ← List.flatMap_append, ← List.flatMap_append, ← run, whole]
      have six := leading.six
      rw [← bytes, List.length_append, List.length_append, List.length_replicate] at six
      rw [List.nil_append, expand_run (by omega) six, bytes]
    · obtain ⟨first, rest, written, apart⟩ := colons_first front frontFits
      exact ⟨first, _, by rw [written, List.cons_append, List.cons_append], apart⟩

/-- An address that is no IPv4 address and whose text does not begin with colons. -/
theorem parseIPv6_string {address : IP} (leading : Leading address) :
    parseIPv6 address.string = some (address.bytes, []) := by
  obtain ⟨bytes, ellipsis, read, expanded, first, rest, written, apart⟩ := parseGroups_string leading
  have zoneless : cut (byte '%') address.string = (address.string, none) :=
    cut_absent (string_clean leading (by decide) (by decide))
  have marks : text "::" = [byte ':', byte ':'] := rfl
  have other : address.string ≠ text "::" := by
    rw [written, marks]
    intro same
    exact apart (List.cons.inj same).1
  have unmarked : (text "::").isPrefixOf address.string = false := by
    rw [written, marks, List.isPrefixOf_cons_cons]
    simp [Ne.symm apart]
  unfold parseIPv6
  rw [zoneless]
  simp only [reduceCtorEq, if_false, other, unmarked, Bool.false_eq_true, read, Option.bind_eq_bind, Option.bind_some,
    ne_eq, not_true_eq_false, expanded]
  rfl

private theorem find_some {value : GoString} {stop : UInt8 → Bool} {c : UInt8} (listed : c ∈ value)
    (stops : stop c = true) (only : ∀ other ∈ value, stop other = true → other = c) : value.find? stop = some c := by
  cases found : value.find? stop with
  | none => exact absurd stops (List.find?_eq_none.mp found c listed)
  | some other => rw [only other (List.mem_of_find?_eq_some found) (List.find?_some found)]

private theorem colon_string {address : IP} (leading : Leading address) : byte ':' ∈ address.string := by
  have length := groups_length address
  unfold string
  rw [leading.other]
  dsimp only
  split
  · obtain ⟨group, rest, written⟩ := List.exists_cons_of_length_eq_add_one length
    have more : rest ≠ [] := by
      rintro rfl
      rw [written] at length
      cases length
    rw [written, colons_cons group more]
    simp
  · have marks : text "::" = [byte ':', byte ':'] := rfl
    simp [marks]

theorem parseAddr_leading {address : IP} (leading : Leading address) :
    parseAddr address.string = some (address, []) := by
  have colon : address.string.find? (fun c => c = byte '.' || c = byte ':' || c = byte '%') = some (byte ':') := by
    refine find_some (colon_string leading) (by decide) ?_
    intro other listed stops
    rcases string_bytes leading other listed with digit | colon
    · have stops_ : ∀ c : UInt8, isHexDigit c = true → ¬(c = byte '.' || c = byte ':' || c = byte '%') = true := by
        decide +kernel
      exact absurd stops (stops_ other digit)
    · exact colon
  have apart : byte ':' ≠ byte '.' := by decide
  have kept : ofBytes address.bytes = some address := by rw [ofBytes, dif_pos address.sized]
  unfold parseAddr
  rw [colon]
  simp only [apart, if_false, if_true, parseIPv6_string leading, Option.bind_eq_bind, Option.bind_some, kept]
  rfl

private theorem string_four {address : IP} (four : address.bytes.length = 4) :
    ∃ a b c d, address.bytes = [a, b, c, d] ∧ address.string = dotted [a, b, c, d] := by
  obtain ⟨a, b, c, d, bytes⟩ : ∃ a b c d, address.bytes = [a, b, c, d] := List.length_eq_four.mp four
  refine ⟨a, b, c, d, bytes, ?_⟩
  unfold string to4
  rw [if_pos four, bytes]
  rfl

private theorem dotted_bytes (a b c d : UInt8) : ∀ other ∈ dotted [a, b, c, d], isDigit other = true ∨ other = byte '.' := by
  have digits : ∀ (octet : UInt8), ∀ other ∈ itoa octet.toNat, isDigit other = true := fun octet =>
    List.all_eq_true.mp (itoa_digits octet.toNat)
  intro other listed
  rw [dotted_four] at listed
  simp only [List.mem_append, List.mem_cons] at listed
  rcases listed with digit | dot | digit | dot | digit | dot | digit
  all_goals first | exact .inr dot | exact .inl (digits _ other digit)

theorem parseAddr_four {address : IP} (four : address.bytes.length = 4) :
    parseAddr address.string = some (address, []) := by
  obtain ⟨a, b, c, d, bytes, written⟩ := string_four four
  have kept : ofBytes [a, b, c, d] = some address := by rw [ofBytes, ← bytes, dif_pos address.sized]
  have dot : (dotted [a, b, c, d]).find? (fun c => c = byte '.' || c = byte ':' || c = byte '%') = some (byte '.') := by
    refine find_some ?_ (by decide) ?_
    · rw [dotted_four]
      simp
    · intro other listed stops
      rcases dotted_bytes a b c d other listed with digit | dot
      · have stops_ : ∀ c : UInt8, isDigit c = true → ¬(c = byte '.' || c = byte ':' || c = byte '%') = true := by
          decide +kernel
        exact absurd stops (stops_ other digit)
      · exact dot
  unfold parseAddr
  rw [written, dot]
  simp only [if_true, parseIPv4Fields_dotted, Option.bind_eq_bind, Option.bind_some, kept]
  rfl

private theorem string_unslashed {address : IP} (readable : address.bytes.length = 4 ∨ Leading address) :
    byte '/' ∉ address.string := by
  rcases readable with four | leading
  · obtain ⟨a, b, c, d, _, written⟩ := string_four four
    rw [written]
    intro listed
    exact absurd (dotted_bytes a b c d _ listed) (by decide)
  · exact string_clean leading (by decide) (by decide)

/-! ## Networks -/

/-- The network of an address that a prefix names. -/
def network (address : IP) (ones : Nat) : IPNet :=
  ⟨address.truncated ones, cidrMask ones address.bytes.length⟩

@[simp] theorem truncated_length (address : IP) (ones : Nat) :
    (address.truncated ones).bytes.length = address.bytes.length := by
  simp [truncated]

private theorem masked_twice (bytes mask : List UInt8) :
    List.zipWith (· &&& ·) (List.zipWith (· &&& ·) bytes mask) mask = List.zipWith (· &&& ·) bytes mask := by
  induction bytes generalizing mask with
  | nil => rfl
  | cons first rest ih =>
      cases mask with
      | nil => rfl
      | cons ones more =>
          rw [List.zipWith_cons_cons, List.zipWith_cons_cons, ih more, UInt8.and_assoc, UInt8.and_self]

theorem truncated_twice (address : IP) (ones : Nat) : (address.truncated ones).truncated ones = address.truncated ones := by
  unfold truncated
  simp only [IP.mk.injEq, List.length_zipWith, cidrMask_length, Nat.min_self]
  exact masked_twice _ _

private theorem four_ones : ∀ ones : Fin 33, simpleMaskLength (cidrMask ones 4) = some ones.val := by
  decide +kernel

private theorem sixteen_ones : ∀ ones : Fin 129, simpleMaskLength (cidrMask ones 16) = some ones.val := by
  decide +kernel

theorem simpleMaskLength_cidrMask (address : IP) {ones : Nat} (few : ones ≤ 8 * address.bytes.length) :
    simpleMaskLength (cidrMask ones address.bytes.length) = some ones := by
  rcases address.sized with four | sixteen
  · rw [four]
    exact four_ones ⟨ones, by omega⟩
  · rw [sixteen]
    exact sixteen_ones ⟨ones, by omega⟩

theorem size_network (address : IP) {ones : Nat} (few : ones ≤ 8 * address.bytes.length) :
    (address.network ones).size = (ones, 8 * address.bytes.length) := by
  simp [IPNet.size, network, simpleMaskLength_cidrMask address few]

end IP

theorem parseCIDR_some {value : GoString} {network : IPNet} (parsed : parseCIDR value = some network) :
    ∃ (address : IP) (ones : Nat), ones ≤ 8 * address.bytes.length ∧ network = address.network ones := by
  unfold parseCIDR at parsed
  split at parsed
  · cases parsed
  · next before mask located =>
    obtain ⟨⟨address, zone⟩, _, rest⟩ := Option.bind_eq_some_iff.mp parsed
    dsimp only at rest
    split at rest
    · cases rest
    · next valid =>
      cases rest
      simp only [not_or, Nat.not_lt] at valid
      exact ⟨address, atoi mask, valid.2.2.2, rfl⟩

/-- What a network is written as is read as that network. -/
theorem parseCIDR_string {address : IP} {ones : Nat} (few : ones ≤ 8 * address.bytes.length)
    (readable : (address.truncated ones).bytes.length = 4 ∨ IP.Leading (address.truncated ones)) :
    parseCIDR (address.network ones).string = some (address.network ones) := by
  have length := IP.truncated_length address ones
  have ends : (address.network ones).string = (address.truncated ones).string ++ byte '/' :: itoa ones := by
    have whole : ¬((IP.cidrMask ones address.bytes.length).length = 16 ∧ (address.truncated ones).to4 ≠ none) := by
      rw [IP.cidrMask_length, ← length]
      rcases readable with four | leading
      · simp [four]
      · simp [leading.other]
    unfold IPNet.string IP.network
    dsimp only
    rw [if_neg whole, IP.simpleMaskLength_cidrMask address few]
  have read : IP.parseAddr (address.truncated ones).string = some (address.truncated ones, []) := by
    rcases readable with four | leading
    · exact IP.parseAddr_four four
    · exact IP.parseAddr_leading leading
  have digits : (itoa ones).all isDigit = true := itoa_digits ones
  unfold parseCIDR
  rw [ends, cut_append (IP.string_unslashed readable)]
  dsimp only
  rw [read, Option.bind_eq_bind, Option.bind_some]
  simp only [ne_eq, not_true_eq_false, itoa_some, digits, reduceCtorEq, false_or, atoi_itoa, length,
    Nat.not_lt.mpr few, if_false]
  rw [IP.truncated_twice]
  rfl

end NodeAtlas
