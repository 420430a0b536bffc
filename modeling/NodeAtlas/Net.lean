import NodeAtlas.Decimal

/-! Package `net` of Go's standard library: addresses, networks, and hosts
with ports. -/

set_option autoImplicit false

namespace NodeAtlas

/-- `net.IP`, less the slices of other lengths, which are no addresses. -/
structure IP where
  bytes : List UInt8
  sized : bytes.length = 4 ∨ bytes.length = 16
  deriving DecidableEq

namespace IP

variable (address : IP)

/-- `To4`: the four bytes of an IPv4 address, also of one written as IPv6. -/
def to4 : Option (List UInt8) :=
  if address.bytes.length = 4 then some address.bytes
  else if address.bytes.take 12 = List.replicate 10 0 ++ [0xFF, 0xFF] then some (address.bytes.drop 12)
  else none

/-- A property of addresses that is one of the IPv4 bytes where there are such,
and one of all bytes elsewhere. -/
def satisfies (four sixteen : List UInt8 → Bool) : Bool :=
  match address.to4 with
  | some bytes => four bytes
  | none => sixteen address.bytes

/-- The byte at an index, under a mask. -/
def masked (bytes : List UInt8) (index : Nat) (mask : UInt8) : UInt8 := bytes.getD index 0 &&& mask

def isUnspecified : Bool :=
  address.satisfies (fun four => four = List.replicate 4 0) fun all => all = List.replicate 16 0

def isLoopback : Bool :=
  address.satisfies (fun four => masked four 0 0xFF = 127) fun all => all = List.replicate 15 0 ++ [1]

def isLinkLocalUnicast : Bool :=
  address.satisfies (fun four => masked four 0 0xFF = 169 && masked four 1 0xFF = 254) fun all =>
    masked all 0 0xFF = 0xFE && masked all 1 0xC0 = 0x80

def isLinkLocalMulticast : Bool :=
  address.satisfies
    (fun four => masked four 0 0xFF = 224 && masked four 1 0xFF = 0 && masked four 2 0xFF = 0) fun all =>
    masked all 0 0xFF = 0xFF && masked all 1 0x0F = 0x02

def isMulticast : Bool :=
  address.satisfies (fun four => masked four 0 0xF0 = 0xE0) fun all => masked all 0 0xFF = 0xFF

def isPrivate : Bool :=
  address.satisfies
    (fun four => masked four 0 0xFF = 10 || (masked four 0 0xFF = 172 && masked four 1 0xF0 = 16) ||
      (masked four 0 0xFF = 192 && masked four 1 0xFF = 168)) fun all => masked all 0 0xFE = 0xFC

/-- The eight groups of an IPv6 address. -/
def groups : List Nat :=
  (List.range 8).map fun index =>
    256 * (address.bytes.getD (2 * index) 0).toNat + (address.bytes.getD (2 * index + 1) 0).toNat

/-- How many groups are zero from an index on. -/
def zeros (groups : List Nat) (index : Nat) : Nat :=
  ((groups.drop index).takeWhile fun group => group = 0).length

/-- Where the first of the longest runs of zeros begins, if one has two groups. -/
def longestZeros (groups : List Nat) : Option Nat :=
  (List.range 8).find? fun index =>
    2 ≤ zeros groups index && (List.range 8).all fun other => zeros groups other ≤ zeros groups index

def colons (groups : List Nat) : GoString :=
  List.intercalate (text ":") (groups.map fun group => (Nat.toDigits 16 group).map byte)

/-- `String`. -/
def string : GoString :=
  match address.to4 with
  | some four => List.intercalate (text ".") (four.map fun part => itoa part.toNat)
  | none =>
      let groups := address.groups
      match longestZeros groups with
      | none => colons groups
      | some index =>
          colons (groups.take index) ++ text "::" ++ colons (groups.drop (index + zeros groups index))

end IP

/-- `net.IPNet`. -/
structure IPNet where
  address : IP
  mask : List UInt8

/-- `Contains`. -/
def IPNet.contains (network : IPNet) (address : IP) : Bool :=
  let number := network.address.to4.getD network.address.bytes
  let mask :=
    if network.mask.length = 16 && number.length = 4 then network.mask.drop 12 else network.mask
  let bytes := address.to4.getD address.bytes
  mask.length = number.length && bytes.length = number.length &&
    (List.zipWith (· &&& ·) number mask) = List.zipWith (· &&& ·) bytes mask

/-- What both address policies say: no special address, loopback only where it
is allowed, and a private address only in a network that is listed. -/
def IP.allowed (allowLoopback : Bool) (allowedPrivateCIDRs : List IPNet) (address : Option IP) : Bool :=
  match address with
  | none => false
  | some address =>
      if address.isUnspecified || address.isLinkLocalUnicast || address.isLinkLocalMulticast ||
          address.isMulticast then false
      else if address.isLoopback then allowLoopback
      else if !address.isPrivate then true
      else allowedPrivateCIDRs.any fun allowed => allowed.contains address

/-- `net.JoinHostPort`. -/
def joinHostPort (host port : GoString) : GoString :=
  if byte ':' ∈ host then byte '[' :: host ++ text "]:" ++ port else host ++ byte ':' :: port

/-- `net.SplitHostPort`; `none` is an error. -/
def splitHostPort (hostPort : GoString) : Option (GoString × GoString) :=
  match cutLast (byte ':') hostPort with
  | (_, none) => none
  | (before, some port) =>
      if hostPort.head? = some (byte '[') then
        match cut (byte ']') hostPort with
        | (_, none) => none
        | (host, some rest) =>
            if rest = byte ':' :: port ∧ byte '[' ∉ hostPort.tail ∧ byte ']' ∉ rest then
              some (host.tail, port)
            else none
      else if byte ':' ∉ before ∧ byte '[' ∉ hostPort ∧ byte ']' ∉ hostPort then some (before, port)
      else none

/-- What the standard library says about texts: which ones `netip.ParseAddr`
takes for IPv6 addresses, `net.ParseIP`, and `strings.EqualFold`. -/
structure NetLibrary where
  literal : GoString → Bool
  parseIP : GoString → Option IP
  equalFold : GoString → GoString → Bool
  folds : ∀ value, equalFold value value = true
  symmetric : ∀ left right, equalFold left right = equalFold right left

/-- A library to run with, which folds ASCII and reads no address. -/
def asciiLibrary : NetLibrary where
  literal _ := false
  parseIP _ := none
  equalFold left right := lower left = lower right
  folds _ := decide_eq_true rfl
  symmetric left right := by simp [eq_comm]

/-- An address that is set aside for documentation. -/
def documentationIP : IP := ⟨[203, 0, 113, 7], .inl rfl⟩

end NodeAtlas
