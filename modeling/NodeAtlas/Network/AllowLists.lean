import NodeAtlas.Console.Policy
import NodeAtlas.Net.Addresses
import NodeAtlas.Network.Client

/-! The lists of private networks: how they are read, and what the policies
that are composed from them allow. -/

set_option autoImplicit false

namespace NodeAtlas.Network

/-! ## The lists -/

def mustPrivateCIDRs : List IPNet :=
  [text "10.0.0.0/8", text "172.16.0.0/12", text "192.168.0.0/16", text "fc00::/7"].filterMap parseCIDR

def cidrWithinPrivateRoot (candidate : IPNet) (roots : List IPNet) : Bool :=
  roots.any fun root =>
    candidate.size.2 = root.size.2 && root.size.1 ≤ candidate.size.1 && root.contains candidate.address

section

variable (quote : GoString → GoString) (environmentKey : GoString)

/-- The loop of `loadAllowedPrivateCIDRs`; what was seen is what the result
holds. -/
def loadEntries : List GoString → List GoString → Except GoString (List GoString)
  | [], result => .ok result
  | entry :: rest, result =>
      let value := trimSpace entry
      match parseCIDR value with
      | none => .error (environmentKey ++ text " contains invalid CIDR " ++ quote value)
      | some network =>
          if !cidrWithinPrivateRoot network mustPrivateCIDRs then
            .error (environmentKey ++ text " entry " ++ quote value ++ text " must be a private network")
          else
            let canonical := network.string
            if canonical ∈ result then loadEntries rest result else loadEntries rest (result ++ [canonical])

/-- `loadAllowedPrivateCIDRs`, of what the environment says. -/
def loadAllowedPrivateCIDRs (value : GoString) : Except GoString (List GoString) :=
  let raw := trimSpace value
  if raw = [] then .ok [] else loadEntries quote environmentKey (raw.splitOn (byte ',')) []

end

def parseAllowedCIDRs (values : List GoString) (purpose : GoString) : Except GoString (List IPNet) :=
  values.mapM fun value =>
    match parseCIDR value with
    | none => .error (text "parse allowed " ++ purpose ++ text " CIDR: invalid CIDR address: " ++ value)
    | some network => .ok network

/-- The policies of `compose`: that of the provider clients, and that of the
console. -/
def compose (console provider : List GoString) : Except GoString (Policy × Console.TargetPolicy) := do
  let allowedProviderCIDRs ← parseAllowedCIDRs provider (text "provider")
  let allowedConsoleCIDRs ← parseAllowedCIDRs console (text "console")
  return (⟨allowedProviderCIDRs, false⟩, ⟨allowedConsoleCIDRs ++ allowedProviderCIDRs, true⟩)

/-! ## Prefixes -/

private theorem maskByte_smaller {less more : Nat} (le : less ≤ more) :
    IP.maskByte more &&& IP.maskByte less = IP.maskByte less := by
  have few : ∀ more less : Fin 9, less ≤ more →
      IP.maskByte more &&& IP.maskByte less = IP.maskByte less := by
    decide
  have capped : ∀ ones, IP.maskByte ones = IP.maskByte (min ones 8) := by
    intro ones
    unfold IP.maskByte
    by_cases full : 8 ≤ ones
    · simp [full]
    · rw [Nat.min_eq_left (by omega)]
  rw [capped more, capped less]
  exact few ⟨min more 8, by omega⟩ ⟨min less 8, by omega⟩ (by simp; omega)

/-- Two addresses agree under a prefix where their bytes do. -/
private theorem agree_iff {left right : List UInt8} (same : left.length = right.length) (ones : Nat) :
    List.zipWith (· &&& ·) left (IP.cidrMask ones left.length) =
        List.zipWith (· &&& ·) right (IP.cidrMask ones left.length) ↔
      ∀ index < left.length, left.getD index 0 &&& IP.maskByte (ones - 8 * index) =
        right.getD index 0 &&& IP.maskByte (ones - 8 * index) := by
  have byte_ : ∀ (bytes : List UInt8) (index : Nat), index < left.length → bytes.length = left.length →
      (List.zipWith (· &&& ·) bytes (IP.cidrMask ones left.length))[index]? =
        some (bytes.getD index 0 &&& IP.maskByte (ones - 8 * index)) := by
    intro bytes index inside length
    have here : index < bytes.length := by omega
    rw [List.getElem?_zipWith]
    simp [IP.cidrMask, inside, here]
  constructor
  · intro agree index inside
    have read := congrArg (·[index]?) agree
    rw [byte_ left index inside rfl, byte_ right index inside same.symm] at read
    exact Option.some.inj read
  · intro agree
    refine List.ext_getElem? fun index => ?_
    by_cases inside : index < left.length
    · rw [byte_ left index inside rfl, byte_ right index inside same.symm, agree index inside]
    · rw [List.getElem?_eq_none (by simp; omega), List.getElem?_eq_none (by simp; omega)]

private theorem agree_smaller {left right : List UInt8} (same : left.length = right.length) {less more : Nat}
    (le : less ≤ more)
    (agree : List.zipWith (· &&& ·) left (IP.cidrMask more left.length) =
      List.zipWith (· &&& ·) right (IP.cidrMask more left.length)) :
    List.zipWith (· &&& ·) left (IP.cidrMask less left.length) =
      List.zipWith (· &&& ·) right (IP.cidrMask less left.length) := by
  rw [agree_iff same] at agree ⊢
  intro index inside
  have smaller : IP.maskByte (more - 8 * index) &&& IP.maskByte (less - 8 * index) =
      IP.maskByte (less - 8 * index) := maskByte_smaller (by omega)
  rw [← smaller, ← UInt8.and_assoc, agree index inside, UInt8.and_assoc]

/-- The bit behind a prefix, in its byte. -/
def behind (ones : Nat) : UInt8 := 0x80 >>> UInt8.ofNat (ones % 8)

def flipped (bytes : List UInt8) (ones : Nat) : List UInt8 :=
  bytes.modify (ones / 8) fun c => c ^^^ behind ones

private theorem and_flipped (c bit mask : UInt8) : (c ^^^ bit) &&& mask = (c &&& mask) ^^^ (bit &&& mask) := by
  apply UInt8.eq_of_toBitVec_eq
  ext index
  simp [Bool.and_xor_distrib_right]

private theorem behind_kept (ones : Nat) : behind ones &&& IP.maskByte (ones - 8 * (ones / 8)) = 0 := by
  have every : ∀ rest : Fin 8, (0x80 >>> UInt8.ofNat rest) &&& IP.maskByte rest = 0 := by
    decide
  have rest : ones - 8 * (ones / 8) = ones % 8 := by omega
  rw [rest]
  exact every ⟨ones % 8, Nat.mod_lt _ (by decide)⟩

private theorem behind_lost {ones more : Nat} (longer : ones < more) :
    behind ones &&& IP.maskByte (more - 8 * (ones / 8)) ≠ 0 := by
  have bit : behind ones &&& IP.maskByte (ones % 8 + 1) ≠ 0 := by
    have every : ∀ rest : Fin 8, (0x80 >>> UInt8.ofNat rest) &&& IP.maskByte (rest + 1) ≠ 0 := by
      decide
    exact every ⟨ones % 8, Nat.mod_lt _ (by decide)⟩
  have smaller : IP.maskByte (more - 8 * (ones / 8)) &&& IP.maskByte (ones % 8 + 1) = IP.maskByte (ones % 8 + 1) :=
    maskByte_smaller (by omega)
  intro none_
  rw [← smaller, ← UInt8.and_assoc, none_] at bit
  exact bit (by simp)

private theorem flipped_length (bytes : List UInt8) (ones : Nat) : (flipped bytes ones).length = bytes.length := by
  simp [flipped]

private theorem flipped_getD {bytes : List UInt8} {ones index : Nat} (inside : index < bytes.length) :
    (flipped bytes ones).getD index 0 =
      if ones / 8 = index then bytes.getD index 0 ^^^ behind ones else bytes.getD index 0 := by
  simp only [flipped, List.getD_eq_getElem?_getD, List.getElem?_modify, inside, List.getElem?_eq_getElem,
    Option.getD_some]
  split <;> rfl

private theorem flipped_agrees (bytes : List UInt8) (ones : Nat) :
    List.zipWith (· &&& ·) bytes (IP.cidrMask ones bytes.length) =
      List.zipWith (· &&& ·) (flipped bytes ones) (IP.cidrMask ones bytes.length) := by
  rw [agree_iff (flipped_length bytes ones).symm]
  intro index inside
  rw [flipped_getD inside]
  split
  · next here =>
    subst here
    rw [and_flipped, behind_kept, UInt8.xor_zero]
  · rfl

private theorem flipped_differs {bytes : List UInt8} {ones more : Nat} (longer : ones < more)
    (inside : ones < 8 * bytes.length) :
    List.zipWith (· &&& ·) bytes (IP.cidrMask more bytes.length) ≠
      List.zipWith (· &&& ·) (flipped bytes ones) (IP.cidrMask more bytes.length) := by
  have place : ones / 8 < bytes.length := by omega
  intro agree
  rw [agree_iff (flipped_length bytes ones).symm] at agree
  have same := agree (ones / 8) place
  rw [flipped_getD place, if_pos rfl, and_flipped] at same
  exact behind_lost longer ((UInt8.xor_right_inj _).mp (same.symm.trans UInt8.xor_zero.symm))

/-! ## Ranges -/

/-- The bytes by which `Contains` knows an address. -/
def number (address : IP) : List UInt8 := address.to4.getD address.bytes

/-- A network all of whose addresses the other one has. -/
def Inside (inner outer : IPNet) : Prop := ∀ address, inner.contains address = true → outer.contains address = true

/-- A network that lies inside a root of its own family. -/
def PrivateSpace (network : IPNet) : Prop :=
  ∃ root ∈ mustPrivateCIDRs, network.mask.length = root.mask.length ∧ Inside network root

private theorem number_lengths (address : IP) :
    number address = address.bytes ∨ (number address).length = 4 ∧ address.bytes.length = 16 := by
  unfold number IP.to4
  split
  · exact .inl rfl
  · next short =>
    have sixteen := address.sized.resolve_left short
    split
    · exact .inr ⟨by simp [sixteen], sixteen⟩
    · exact .inl rfl

private theorem number_plain {address : IP} (same : (number address).length = address.bytes.length) :
    number address = address.bytes := by
  rcases number_lengths address with plain | ⟨four, sixteen⟩
  · exact plain
  · omega

section Ranges

variable {origin : IP} {ones : Nat}

theorem contains_iff (plain : number origin = origin.bytes) (address : IP) :
    (⟨origin, IP.cidrMask ones origin.bytes.length⟩ : IPNet).contains address = true ↔
      (number address).length = origin.bytes.length ∧
        List.zipWith (· &&& ·) origin.bytes (IP.cidrMask ones origin.bytes.length) =
          List.zipWith (· &&& ·) (number address) (IP.cidrMask ones origin.bytes.length) := by
  have number_ : ∀ address : IP, address.to4.getD address.bytes = number address := fun _ => rfl
  have whole : ¬(origin.bytes.length = 16 ∧ origin.bytes.length = 4) := by omega
  simp [IPNet.contains, number_, plain, whole]

theorem contains_self (origin : IP) (ones : Nat) :
    (⟨origin, IP.cidrMask ones origin.bytes.length⟩ : IPNet).contains origin = true := by
  rcases number_lengths origin with plain | ⟨four, sixteen⟩
  · exact (contains_iff plain origin).mpr ⟨by rw [plain], by rw [plain]⟩
  · have number_ : origin.to4.getD origin.bytes = number origin := rfl
    simp [IPNet.contains, number_, four, sixteen]

end Ranges

/-- What the roots have in common: those of IPv6 say how their addresses begin. -/
structure Root (root : IPNet) (origin : IP) (ones : Nat) : Prop where
  same : root = ⟨origin, IP.cidrMask ones origin.bytes.length⟩
  few : ones ≤ 8 * origin.bytes.length
  size : root.size = (ones, 8 * origin.bytes.length)
  plain : number origin = origin.bytes
  family : origin.bytes.length = 4 ∨ ones = 7 ∧ origin.bytes = 0xFC :: List.replicate 15 0

private theorem roots {root : IPNet} (listed : root ∈ mustPrivateCIDRs) : ∃ origin ones, Root root origin ones := by
  have written : mustPrivateCIDRs =
      [⟨⟨[10, 0, 0, 0], .inl rfl⟩, IP.cidrMask 8 4⟩, ⟨⟨[172, 16, 0, 0], .inl rfl⟩, IP.cidrMask 12 4⟩,
        ⟨⟨[192, 168, 0, 0], .inl rfl⟩, IP.cidrMask 16 4⟩,
        ⟨⟨0xFC :: List.replicate 15 0, .inr rfl⟩, IP.cidrMask 7 16⟩] := rfl
  rw [written] at listed
  simp only [List.mem_cons, List.not_mem_nil, or_false] at listed
  rcases listed with rfl | rfl | rfl | rfl
  · exact ⟨_, 8, rfl, by decide, by decide, rfl, .inl rfl⟩
  · exact ⟨_, 12, rfl, by decide, by decide, rfl, .inl rfl⟩
  · exact ⟨_, 16, rfl, by decide, by decide, rfl, .inl rfl⟩
  · exact ⟨_, 7, rfl, by decide, by decide, rfl, .inr ⟨rfl, rfl⟩⟩

/-- An address that a root of its family has. -/
private theorem root_first {root : IPNet} {origin : IP} {ones : Nat} (known : Root root origin ones) {address : IP}
    (same : address.bytes.length = origin.bytes.length) (contained : root.contains address = true) :
    number address = address.bytes ∧
      (address.bytes.length = 4 ∨ ones = 7 ∧ (address.bytes.getD 0 0) &&& 0xFE = 0xFC) := by
  rw [known.same, contains_iff known.plain] at contained
  obtain ⟨length, agree⟩ := contained
  have plain := number_plain (length.trans same.symm)
  refine ⟨plain, ?_⟩
  rcases known.family with four | ⟨seven, bytes⟩
  · exact .inl (same.trans four)
  · refine .inr ⟨seven, ?_⟩
    rw [plain, agree_iff same.symm] at agree
    have first := agree 0 (by simp [bytes])
    rw [seven, bytes] at first
    exact first.symm

private theorem to4_first {address : IP} (sixteen : address.bytes.length = 16) (first : address.bytes.getD 0 0 ≠ 0) :
    address.to4 = none := by
  have long : address.bytes.length ≠ 4 := by omega
  unfold IP.to4
  rw [if_neg long, if_neg]
  intro taken
  have zero : (address.bytes.take 12).getD 0 0 = 0 := by rw [taken]; rfl
  rw [List.getD_eq_getElem?_getD, List.getElem?_take_of_lt (by decide), ← List.getD_eq_getElem?_getD] at zero
  exact first zero

private theorem flipped_first {c : UInt8} {ones : Nat} (root : c &&& 0xFE = 0xFC) : c ^^^ behind ones ≠ 0 := by
  have every : ∀ rest : Fin 8, (0x80 >>> UInt8.ofNat rest) &&& 0xFE ≠ (0xFC : UInt8) := by
    decide
  intro zero
  rw [UInt8.xor_eq_zero_iff.mp zero] at root
  exact every ⟨ones % 8, Nat.mod_lt _ (by decide)⟩ root

/-- An address of the network that the root does not have, where the network is
the larger one. -/
private theorem outside_exists {root : IPNet} {origin : IP} {more : Nat} (known : Root root origin more) {address : IP}
    (same : address.bytes.length = origin.bytes.length) (contained : root.contains address = true) {ones : Nat}
    (larger : ones < more) :
    ∃ other, (⟨address, IP.cidrMask ones address.bytes.length⟩ : IPNet).contains other = true ∧
      root.contains other = false := by
  obtain ⟨plain, first⟩ := root_first known same contained
  have inside : ones < 8 * address.bytes.length := by
    have few := known.few
    omega
  have length := flipped_length address.bytes ones
  let other : IP := ⟨flipped address.bytes ones, by rw [length]; exact address.sized⟩
  have otherPlain : number other = other.bytes := by
    rcases first with four | ⟨seven, begins⟩
    · refine (number_lengths other).resolve_right ?_
      rintro ⟨_, sixteen⟩
      have four_ : other.bytes.length = 4 := length.trans four
      omega
    · rcases number_lengths other with plain_ | ⟨_, sixteen⟩
      · exact plain_
      · have byte_ : other.bytes.getD 0 0 = address.bytes.getD 0 0 ^^^ behind ones := by
          rw [flipped_getD (by omega), if_pos (by omega)]
        have none_ := to4_first sixteen (by rw [byte_]; exact flipped_first begins)
        rw [number, none_, Option.getD_none]
  refine ⟨other, ?_, ?_⟩
  · rw [contains_iff plain, otherPlain]
    exact ⟨length, flipped_agrees address.bytes ones⟩
  · refine Bool.eq_false_iff.mpr fun kept => ?_
    rw [known.same, contains_iff known.plain] at contained kept
    have both := contained.2.symm.trans kept.2
    rw [plain, otherPlain, ← same] at both
    exact flipped_differs larger inside both

/-- The test that is made on a root says that the network lies inside it. -/
private theorem root_tested {root : IPNet} {origin : IP} {fixed : Nat} (known : Root root origin fixed) {address : IP}
    {ones : Nat} (few : ones ≤ 8 * address.bytes.length) :
    ((address.network ones).size.2 = root.size.2 ∧ root.size.1 ≤ (address.network ones).size.1 ∧
        root.contains (address.truncated ones) = true) ↔
      (address.network ones).mask.length = root.mask.length ∧ Inside (address.network ones) root := by
  have length := IP.truncated_length address ones
  have network_ : address.network ones =
      ⟨address.truncated ones, IP.cidrMask ones (address.truncated ones).bytes.length⟩ := by
    rw [length]
    rfl
  have widths : (address.network ones).mask.length = root.mask.length ↔
      (address.truncated ones).bytes.length = origin.bytes.length := by
    simp [IP.network, known.same]
  rw [IP.size_network address few, known.size, widths]
  dsimp only
  constructor
  · rintro ⟨bits, longer, contained⟩
    have same : (address.truncated ones).bytes.length = origin.bytes.length := by omega
    have plain := (root_first known same contained).1
    refine ⟨same, ?_⟩
    intro other listed
    rw [network_, contains_iff plain] at listed
    rw [known.same, contains_iff known.plain] at contained ⊢
    refine ⟨listed.1.trans same, contained.2.trans ?_⟩
    rw [plain, ← same]
    exact agree_smaller listed.1.symm longer listed.2
  · rintro ⟨same, inside⟩
    have contained : root.contains (address.truncated ones) = true := by
      apply inside
      rw [network_]
      exact contains_self _ _
    refine ⟨by omega, ?_, contained⟩
    rcases Nat.lt_or_ge ones fixed with larger | longer
    · obtain ⟨other, listed, left⟩ := outside_exists known same contained larger
      rw [← network_] at listed
      rw [inside other listed] at left
      cases left
    · exact longer

theorem cidrWithinPrivateRoot_iff {address : IP} {ones : Nat} (few : ones ≤ 8 * address.bytes.length) :
    cidrWithinPrivateRoot (address.network ones) mustPrivateCIDRs = true ↔ PrivateSpace (address.network ones) := by
  unfold cidrWithinPrivateRoot PrivateSpace
  rw [List.any_eq_true]
  refine exists_congr fun root => and_congr_right fun listed => ?_
  obtain ⟨origin, fixed, known⟩ := roots listed
  rw [← root_tested known few]
  simp only [Bool.and_eq_true, decide_eq_true_eq, and_assoc]
  rfl

/-- Private networks are read back from what they are written as. -/
theorem private_string {network : IPNet} {value : GoString} (parsed : parseCIDR value = some network)
    (space : PrivateSpace network) : parseCIDR network.string = some network := by
  obtain ⟨address, ones, few, rfl⟩ := parseCIDR_some parsed
  refine parseCIDR_string few ?_
  obtain ⟨root, listed, tested⟩ := space
  obtain ⟨origin, fixed, known⟩ := roots listed
  obtain ⟨bits, _, contained⟩ := (root_tested known few).mpr tested
  have length := IP.truncated_length address ones
  rw [IP.size_network address few, known.size] at bits
  have same : (address.truncated ones).bytes.length = origin.bytes.length := by
    dsimp only at bits
    omega
  obtain ⟨_, first⟩ := root_first known same contained
  rcases first with four | ⟨seven, begins⟩
  · exact .inl four
  · rcases (address.truncated ones).sized with four | sixteen
    · exact .inl four
    · have some_ : (address.truncated ones).bytes.getD 0 0 ≠ 0 := by
        intro zero
        rw [zero] at begins
        exact absurd begins (by decide)
      refine .inr ⟨sixteen, to4_first sixteen some_, ?_⟩
      have group : 256 * ((address.truncated ones).bytes.getD 0 0).toNat +
          ((address.truncated ones).bytes.getD 1 0).toNat ≠ 0 := by
        have large : ((address.truncated ones).bytes.getD 0 0).toNat ≠ 0 := by
          intro zero
          exact some_ (UInt8.toNat_inj.mp zero)
        omega
      have grouped : (address.truncated ones).groups = (256 * ((address.truncated ones).bytes.getD 0 0).toNat +
          ((address.truncated ones).bytes.getD 1 0).toNat) :: (address.truncated ones).groups.tail := rfl
      rw [IP.zeros, List.drop_zero, grouped, List.takeWhile_cons_of_neg (by simpa using group)]
      rfl

/-! ## Reading the lists -/

/-- The entries of a list. -/
def entries (value : GoString) : List GoString :=
  if trimSpace value = [] then [] else ((trimSpace value).splitOn (byte ',')).map trimSpace

def Admitted (entry : GoString) (network : IPNet) : Prop := parseCIDR entry = some network ∧ PrivateSpace network

private theorem admitted_tested {entry : GoString} {network : IPNet} (parsed : parseCIDR entry = some network) :
    cidrWithinPrivateRoot network mustPrivateCIDRs = true ↔ PrivateSpace network := by
  obtain ⟨address, ones, few, rfl⟩ := parseCIDR_some parsed
  exact cidrWithinPrivateRoot_iff few

section Reading

variable {quote : GoString → GoString} {environmentKey : GoString}

/-- The loop adds what the entries are written as, and none of them is left out. -/
private theorem loadEntries_adds {rest result listed : List GoString}
    (loaded : loadEntries quote environmentKey rest result = .ok listed) :
    (∀ entry ∈ rest.map trimSpace, ∃ network, Admitted entry network) ∧
      ∀ canonical, canonical ∈ listed ↔ canonical ∈ result ∨
        ∃ entry ∈ rest.map trimSpace, ∃ network, Admitted entry network ∧ network.string = canonical := by
  induction rest generalizing result with
  | nil =>
      cases loaded
      simp
  | cons entry rest ih =>
      rw [loadEntries] at loaded
      dsimp only at loaded
      split at loaded
      · cases loaded
      · next network parsed =>
        split at loaded
        · cases loaded
        · next tested =>
          have space : PrivateSpace network := (admitted_tested parsed).mp (by simpa using tested)
          -- The entry is read as one network only.
          have only : ∀ canonical, (∃ other, Admitted (trimSpace entry) other ∧ other.string = canonical) ↔
              network.string = canonical := by
            intro canonical
            constructor
            · rintro ⟨other, ⟨again, _⟩, written⟩
              rw [parsed, Option.some.injEq] at again
              rwa [again]
            · intro written
              exact ⟨network, ⟨parsed, space⟩, written⟩
          rw [List.map_cons, List.forall_mem_cons]
          simp only [List.exists_mem_cons_iff, only]
          split at loaded
          · next seen =>
            obtain ⟨others, adds⟩ := ih loaded
            refine ⟨⟨⟨network, parsed, space⟩, others⟩, fun canonical => ?_⟩
            rw [adds]
            constructor
            · rintro (earlier | later)
              · exact .inl earlier
              · exact .inr (.inr later)
            · rintro (earlier | rfl | later)
              · exact .inl earlier
              · exact .inl seen
              · exact .inr later
          · obtain ⟨others, adds⟩ := ih loaded
            refine ⟨⟨⟨network, parsed, space⟩, others⟩, fun canonical => ?_⟩
            rw [adds, List.mem_append, List.mem_singleton, or_assoc, eq_comm (a := canonical)]

private theorem loadEntries_total {rest : List GoString}
    (admitted : ∀ entry ∈ rest.map trimSpace, ∃ network, Admitted entry network) (result : List GoString) :
    ∃ listed, loadEntries quote environmentKey rest result = .ok listed := by
  induction rest generalizing result with
  | nil => exact ⟨result, rfl⟩
  | cons entry rest ih =>
      rw [List.map_cons, List.forall_mem_cons] at admitted
      obtain ⟨⟨network, parsed, space⟩, others⟩ := admitted
      rw [loadEntries]
      simp only [parsed, (admitted_tested parsed).mpr space, Bool.not_true, Bool.false_eq_true, if_false]
      split
      · exact ih others result
      · exact ih others _

private theorem load_iff {value : GoString} :
    (∃ listed, loadAllowedPrivateCIDRs quote environmentKey value = .ok listed) ↔
      ∀ entry ∈ entries value, ∃ network, Admitted entry network := by
  unfold loadAllowedPrivateCIDRs entries
  dsimp only
  split
  · exact ⟨fun _ => nofun, fun _ => ⟨[], rfl⟩⟩
  · exact ⟨fun ⟨_, loaded⟩ => (loadEntries_adds loaded).1, fun admitted => loadEntries_total admitted []⟩

private theorem load_listed {value : GoString} {listed : List GoString}
    (loaded : loadAllowedPrivateCIDRs quote environmentKey value = .ok listed) (canonical : GoString) :
    canonical ∈ listed ↔ ∃ entry ∈ entries value, ∃ network, Admitted entry network ∧ network.string = canonical := by
  unfold loadAllowedPrivateCIDRs at loaded
  unfold entries
  dsimp only at loaded
  split at loaded
  · next empty =>
    cases loaded
    simp [empty]
  · next some_ =>
    rw [if_neg some_]
    simpa using (loadEntries_adds loaded).2 canonical

private theorem parseAllowed_read {values : List GoString}
    (valid : ∀ value ∈ values, ∃ network, parseCIDR value = some network) (purpose : GoString) :
    parseAllowedCIDRs values purpose = .ok (values.filterMap parseCIDR) := by
  unfold parseAllowedCIDRs
  induction values with
  | nil => rfl
  | cons value rest ih =>
      obtain ⟨⟨network, parsed⟩, others⟩ := List.forall_mem_cons.mp valid
      rw [List.mapM_cons, ih others, parsed, List.filterMap_cons_some parsed]
      rfl

/-- The networks of a loaded list are those of its entries. -/
theorem load_networks {value : GoString} {listed : List GoString}
    (loaded : loadAllowedPrivateCIDRs quote environmentKey value = .ok listed) (purpose : GoString) :
    ∃ networks, parseAllowedCIDRs listed purpose = .ok networks ∧
      ∀ network, network ∈ networks ↔ ∃ entry ∈ entries value, Admitted entry network := by
  have written : ∀ canonical ∈ listed, ∃ entry ∈ entries value, ∃ network, Admitted entry network ∧
      parseCIDR canonical = some network := by
    intro canonical member
    obtain ⟨entry, present, network, admitted, rfl⟩ := (load_listed loaded canonical).mp member
    exact ⟨entry, present, network, admitted, private_string admitted.1 admitted.2⟩
  refine ⟨_, parseAllowed_read ?_ purpose, fun network => ?_⟩
  · intro canonical member
    obtain ⟨_, _, network, _, parsed⟩ := written canonical member
    exact ⟨network, parsed⟩
  · rw [List.mem_filterMap]
    constructor
    · rintro ⟨canonical, member, parsed⟩
      obtain ⟨entry, present, other, admitted, again⟩ := written canonical member
      rw [parsed, Option.some.injEq] at again
      exact ⟨entry, present, again ▸ admitted⟩
    · rintro ⟨entry, present, admitted⟩
      exact ⟨network.string, (load_listed loaded _).mpr ⟨entry, present, network, admitted, rfl⟩,
        private_string admitted.1 admitted.2⟩

end Reading

/-! ## The policies -/

/-- Loopback, unspecified, link-local or multicast. -/
def special (address : IP) : Bool :=
  address.isLoopback || address.isUnspecified || address.isLinkLocalUnicast || address.isLinkLocalMulticast ||
    address.isMulticast

private theorem allowed_iff (networks : List IPNet) (address : IP) :
    IP.allowed false networks (some address) = true ↔ special address = false ∧
      (address.isPrivate = false ∨ ∃ network ∈ networks, network.contains address = true) := by
  simp only [IP.allowed, special]
  grind

/-- What the policies of `compose` say of an address, with the entries that are
listed for them. -/
def Verdict (listed : List GoString) (address : IP) : Prop :=
  special address = false ∧ (address.isPrivate = false ∨
    ∃ entry ∈ listed, ∃ network, Admitted entry network ∧ network.contains address = true)

private theorem verdict_iff {networks : List IPNet} {listed : List GoString}
    (known : ∀ network, network ∈ networks ↔ ∃ entry ∈ listed, Admitted entry network) (address : IP) :
    IP.allowed false networks (some address) = true ↔ Verdict listed address := by
  have same : (∃ network ∈ networks, network.contains address = true) ↔
      ∃ entry ∈ listed, ∃ network, Admitted entry network ∧ network.contains address = true := by
    constructor
    · rintro ⟨network, member, contained⟩
      obtain ⟨entry, present, admitted⟩ := (known network).mp member
      exact ⟨entry, present, network, admitted, contained⟩
    · rintro ⟨entry, present, network, admitted, contained⟩
      exact ⟨network, (known network).mpr ⟨entry, present, admitted⟩, contained⟩
  rw [allowed_iff, same, Verdict]

/-- A list is loaded where every entry is a network that lies inside a root of
its own family. The policies that are composed from two loaded lists allow no
special address, and a private one only in a network that is listed: for the
console, in either list. -/
theorem lists_private (quote : GoString → GoString) :
    (∀ environmentKey value, (∃ listed, loadAllowedPrivateCIDRs quote environmentKey value = .ok listed) ↔
      ∀ entry ∈ entries value, ∃ network, parseCIDR entry = some network ∧ PrivateSpace network) ∧
    ∀ (consoleKey providerKey consoleValue providerValue : GoString) (consoleListed providerListed : List GoString),
      loadAllowedPrivateCIDRs quote consoleKey consoleValue = .ok consoleListed →
      loadAllowedPrivateCIDRs quote providerKey providerValue = .ok providerListed →
      ∃ provider console, compose consoleListed providerListed = .ok (provider, console) ∧
        (∀ address, provider.addressAllowed (some address) = true ↔ Verdict (entries providerValue) address) ∧
        (∀ address, console.addressAllowed (some address) = true ↔
          Verdict (entries consoleValue ++ entries providerValue) address) ∧
        provider.addressAllowed none = false ∧ console.addressAllowed none = false ∧
        ∀ address, provider.addressAllowed address = true → console.addressAllowed address = true := by
  refine ⟨fun _ _ => load_iff, ?_⟩
  intro consoleKey providerKey consoleValue providerValue consoleListed providerListed consoleLoaded providerLoaded
  obtain ⟨consoles, consoleRead, consoleKnown⟩ := load_networks consoleLoaded (text "console")
  obtain ⟨providers, providerRead, providerKnown⟩ := load_networks providerLoaded (text "provider")
  have both : ∀ network, network ∈ consoles ++ providers ↔
      ∃ entry ∈ entries consoleValue ++ entries providerValue, Admitted entry network := by
    intro network
    simp only [List.mem_append, consoleKnown, providerKnown, or_and_right, exists_or]
  refine ⟨⟨providers, false⟩, ⟨consoles ++ providers, true⟩, ?_, verdict_iff providerKnown, verdict_iff both, rfl, rfl, ?_⟩
  · rw [compose, providerRead, consoleRead]
    rfl
  · intro address allowed
    cases address with
    | none => cases allowed
    | some address =>
        obtain ⟨plain, open_ | ⟨network, member, contained⟩⟩ := (allowed_iff providers address).mp allowed
        · exact (allowed_iff _ address).mpr ⟨plain, .inl open_⟩
        · exact (allowed_iff _ address).mpr ⟨plain, .inr ⟨network, List.mem_append_right _ member, contained⟩⟩

/-- Two lists, of which one has a network twice and with bits behind its prefix. -/
theorem lists_private_composed :
    ∃ provider console, compose [text "10.0.0.0/14", text "192.168.4.0/24"] [text "fd00::/8"] = .ok (provider, console) ∧
      (∀ address, provider.addressAllowed address = true → console.addressAllowed address = true) ∧
      console.addressAllowed (some ⟨[10, 3, 255, 1], .inl rfl⟩) = true ∧
      console.addressAllowed (some ⟨[10, 4, 0, 1], .inl rfl⟩) = false := by
  obtain ⟨provider, console, composed, _, _, _, _, wider⟩ :=
    (lists_private id).2 (text "CONSOLE_ALLOWED_PRIVATE_CIDRS") (text "PROVIDER_ALLOWED_PRIVATE_CIDRS")
      (text " 10.1.2.3/14, 192.168.4.0/24,10.0.0.0/14") (text "fd00::/8") _ _ rfl rfl
  refine ⟨provider, console, composed, wider, ?_⟩
  cases composed
  exact ⟨rfl, rfl⟩

end NodeAtlas.Network
