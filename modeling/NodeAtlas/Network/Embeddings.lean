import NodeAtlas.Console.Policy
import NodeAtlas.Network.Client

/-! The spellings of an IPv4 destination, and what the two address policies say
of each. -/

set_option autoImplicit false

namespace NodeAtlas.Network

structure IPv4 where
  bytes : List UInt8
  sized : bytes.length = 4
  deriving DecidableEq

/-- The ten bytes of a 6to4 address that are the choice of its site. -/
structure Site where
  bytes : List UInt8
  sized : bytes.length = 10
  deriving DecidableEq

namespace IPv4

def short (destination : IPv4) : IP := ⟨destination.bytes, .inl destination.sized⟩

/-- `::ffff:a.b.c.d` -/
def mapped (destination : IPv4) : IP :=
  ⟨List.replicate 10 0 ++ [0xFF, 0xFF] ++ destination.bytes, .inr (by simp [destination.sized])⟩

/-- `64:ff9b::a.b.c.d` -/
def nat64 (destination : IPv4) : IP :=
  ⟨[0x00, 0x64, 0xFF, 0x9B] ++ List.replicate 8 0 ++ destination.bytes, .inr (by simp [destination.sized])⟩

/-- An address of `2002:abcd::/48` -/
def sixToFour (destination : IPv4) (site : Site) : IP :=
  ⟨[0x20, 0x02] ++ destination.bytes ++ site.bytes, .inr (by simp [destination.sized, site.sized])⟩

end IPv4

/-! ## The two copies of the policy -/

/-- `addressAllowed` of the console, as it stands there. -/
def consoleVerdict (allowedPrivateCIDRs : List IPNet) (address : Option IP) : Bool :=
  match address with
  | none => false
  | some address =>
      if address.isUnspecified || address.isLoopback || address.isLinkLocalUnicast ||
          address.isLinkLocalMulticast || address.isMulticast then false
      else if !address.isPrivate then true
      else allowedPrivateCIDRs.any fun allowed => allowed.contains address

theorem console_verdict (policy : Console.TargetPolicy) (address : Option IP) :
    policy.addressAllowed address = consoleVerdict policy.allowedPrivateCIDRs address := by
  cases address with
  | none => rfl
  | some address =>
      simp only [Console.TargetPolicy.addressAllowed, IP.allowed, consoleVerdict]
      cases loop : address.isLoopback
      · simp
      · simp

/-! ## Spellings -/

theorem to4_short (destination : IPv4) : destination.short.to4 = some destination.bytes := by
  simp [IP.to4, IPv4.short, destination.sized]

theorem to4_mapped (destination : IPv4) : destination.mapped.to4 = some destination.bytes := by
  simp [IP.to4, IPv4.mapped, destination.sized]

/-- What `To4` gives the same answer for, no policy tells apart. -/
private theorem allowed_to4 {left right : IP} {four : List UInt8} (leftFour : left.to4 = some four)
    (rightFour : right.to4 = some four) (allowLoopback : Bool) (allowedPrivateCIDRs : List IPNet) :
    IP.allowed allowLoopback allowedPrivateCIDRs (some left) =
      IP.allowed allowLoopback allowedPrivateCIDRs (some right) := by
  simp [IP.allowed, IP.isUnspecified, IP.isLinkLocalUnicast, IP.isLinkLocalMulticast, IP.isMulticast,
    IP.isLoopback, IP.isPrivate, IP.satisfies, IPNet.contains, leftFour, rightFour]

private theorem to4_nat64 (destination : IPv4) : destination.nat64.to4 = none := by
  simp [IP.to4, IPv4.nat64, destination.sized, List.replicate]

private theorem to4_sixToFour (destination : IPv4) (site : Site) :
    (destination.sixToFour site).to4 = none := by
  simp [IP.to4, IPv4.sixToFour, destination.sized, site.sized, List.replicate]

/-- A global IPv6 address is allowed, whatever it embeds. -/
private theorem allowed_nat64 (destination : IPv4) (allowLoopback : Bool) (allowedPrivateCIDRs : List IPNet) :
    IP.allowed allowLoopback allowedPrivateCIDRs (some destination.nat64) = true := by
  simp only [IP.allowed, IP.isUnspecified, IP.isLinkLocalUnicast, IP.isLinkLocalMulticast, IP.isMulticast,
    IP.isLoopback, IP.isPrivate, IP.satisfies, to4_nat64]
  simp [IP.masked, IPv4.nat64, List.replicate]

private theorem allowed_sixToFour (destination : IPv4) (site : Site) (allowLoopback : Bool)
    (allowedPrivateCIDRs : List IPNet) :
    IP.allowed allowLoopback allowedPrivateCIDRs (some (destination.sixToFour site)) = true := by
  simp only [IP.allowed, IP.isUnspecified, IP.isLinkLocalUnicast, IP.isLinkLocalMulticast, IP.isMulticast,
    IP.isLoopback, IP.isPrivate, IP.satisfies, to4_sixToFour]
  simp [IP.masked, IPv4.sixToFour, List.replicate]
  exact ⟨by decide, .inl (by decide)⟩

/-- Both policies give one verdict on an IPv4 destination and on its mapped
form, and the same as each other on every address. The IPv6 addresses of NAT64
and of 6to4 are global ones to them: they are allowed. -/
theorem destinations_judged (allowedPrivateCIDRs : List IPNet) (allowMockTransport : Bool) :
    let console : Console.TargetPolicy := ⟨allowedPrivateCIDRs, allowMockTransport⟩
    let provider : Policy := ⟨allowedPrivateCIDRs, false⟩
    (∀ destination : IPv4,
      console.addressAllowed (some destination.mapped) = console.addressAllowed (some destination.short) ∧
      provider.addressAllowed (some destination.mapped) = provider.addressAllowed (some destination.short)) ∧
    (∀ address, consoleVerdict allowedPrivateCIDRs address = provider.addressAllowed address ∧
      console.addressAllowed address = provider.addressAllowed address) ∧
    (∀ destination : IPv4, console.addressAllowed (some destination.nat64) = true) ∧
    ∀ (destination : IPv4) (site : Site), console.addressAllowed (some (destination.sixToFour site)) = true := by
  intro console provider
  constructor
  · intro destination
    have mapped := to4_mapped destination
    have short := to4_short destination
    constructor
    · exact allowed_to4 mapped short false allowedPrivateCIDRs
    · exact allowed_to4 mapped short false allowedPrivateCIDRs
  constructor
  · intro address
    have verdict := console_verdict console address
    constructor
    · exact verdict.symm
    · rfl
  constructor
  · intro destination
    exact allowed_nat64 destination false allowedPrivateCIDRs
  · intro destination site
    exact allowed_sixToFour destination site false allowedPrivateCIDRs

def cloudMetadata : IPv4 := ⟨[169, 254, 169, 254], rfl⟩

/-- The metadata service of a cloud, spelt for NAT64 and for 6to4. -/
theorem metadata_reached :
    Console.TargetPolicy.addressAllowed ⟨[], false⟩ (some cloudMetadata.short) = false ∧
      Console.TargetPolicy.addressAllowed ⟨[], false⟩ (some cloudMetadata.nat64) = true ∧
      Console.TargetPolicy.addressAllowed ⟨[], false⟩
        (some (cloudMetadata.sixToFour ⟨List.replicate 10 0, rfl⟩)) = true := by
  decide

end NodeAtlas.Network
