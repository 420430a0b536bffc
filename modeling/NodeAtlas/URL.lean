import NodeAtlas.Runtime

/-! `net/url` of Go's standard library: parsing, the parts of a URL, and the
text that it is written back as. -/

set_option autoImplicit false

namespace NodeAtlas

def byte (character : Char) : UInt8 := UInt8.ofNat character.toNat

/-- `strings.ToLower`, as far as ASCII goes. -/
def lowerByte (value : UInt8) : UInt8 :=
  if byte 'A' ≤ value ∧ value ≤ byte 'Z' then value + 32 else value

def lower (value : GoString) : GoString := value.map lowerByte

/-- One spelling for all texts that `strings.EqualFold` takes for one ASCII
text; two letters beyond ASCII fold into it. -/
def fold : GoString → GoString
  | 0xC5 :: 0xBF :: rest => byte 's' :: fold rest
  | 0xE2 :: 0x84 :: 0xAA :: rest => byte 'k' :: fold rest
  | first :: rest => lowerByte first :: fold rest
  | [] => []

def isDigit (value : UInt8) : Bool := byte '0' ≤ value ∧ value ≤ byte '9'

def isLetter (value : UInt8) : Bool :=
  (byte 'a' ≤ value ∧ value ≤ byte 'z') ∨ (byte 'A' ≤ value ∧ value ≤ byte 'Z')

/-- `strings.Cut` at a byte: what stands before it, and what stands behind it if it occurs. -/
def cut (separator : UInt8) : GoString → GoString × Option GoString
  | [] => ([], none)
  | first :: rest =>
      if first = separator then ([], some rest)
      else
        let (before, after) := cut separator rest
        (first :: before, after)

/-- The same at the last occurrence. -/
def cutLast (separator : UInt8) (value : GoString) : GoString × Option GoString :=
  match cut separator value.reverse with
  | (_, none) => (value, none)
  | (after, some before) => (before.reverse, some after.reverse)

theorem cut_append {separator : UInt8} {before after : GoString} (absent : separator ∉ before) :
    cut separator (before ++ separator :: after) = (before, some after) := by
  induction before with
  | nil => simp [cut]
  | cons first rest ih =>
      have apart := List.ne_of_not_mem_cons absent
      rw [List.cons_append, cut, if_neg (Ne.symm apart), ih (List.not_mem_of_not_mem_cons absent)]

/-- Where a separator comes first, texts are cut in one way only. -/
theorem cut_unique {separator : UInt8} {left right leftRest rightRest : GoString} (leftClean : separator ∉ left)
    (rightClean : separator ∉ right) (same : left ++ separator :: leftRest = right ++ separator :: rightRest) :
    left = right ∧ leftRest = rightRest := by
  have cuts : cut separator (left ++ separator :: leftRest) = (left, some leftRest) := cut_append leftClean
  rw [same, cut_append rightClean] at cuts
  cases cuts
  exact ⟨rfl, rfl⟩

namespace URL

inductive Encoding where
  | path
  | host
  | zone
  | userPassword
  | fragment
  deriving DecidableEq, Repr

def shouldEscape (mode : Encoding) (value : UInt8) : Bool :=
  if isLetter value || isDigit value then false
  else if (mode = .host || mode = .zone) && (text "!$&'()*+,;=:[]<>\"").contains value then false
  else if (text "-_.~").contains value then false
  else if (text "$&+,/:;=?@").contains value then
    match mode with
    | .path => value = byte '?'
    | .userPassword => (text "@/?:").contains value
    | .fragment => false
    | .host | .zone => true
  else if mode = .fragment && (text "!()*").contains value then false
  else true

def hexDigits : GoString := text "0123456789ABCDEF"

def escape (mode : Encoding) (value : GoString) : GoString :=
  value.flatMap fun each =>
    if shouldEscape mode each then
      [byte '%', hexDigits.getD (each.toNat / 16) 0, hexDigits.getD (each.toNat % 16) 0]
    else [each]

def unhex (value : UInt8) : Option Nat :=
  if isDigit value then some (value.toNat - '0'.toNat)
  else if byte 'a' ≤ value ∧ value ≤ byte 'f' then some (value.toNat - 'a'.toNat + 10)
  else if byte 'A' ≤ value ∧ value ≤ byte 'F' then some (value.toNat - 'A'.toNat + 10)
  else none

/-- Whether a mode lets a percent sign stand for a byte. -/
def mayDecode (mode : Encoding) (value : Nat) : Bool :=
  match mode with
  | .host => 0x80 ≤ value || value = 0x25
  | .zone => value = 0x25 || value = 0x20 || !shouldEscape .host (UInt8.ofNat value)
  | _ => true

/-- `unescape`; `none` is an error. -/
def unescape (mode : Encoding) : GoString → Option GoString
  | [] => some []
  | first :: rest =>
      if first = byte '%' then
        match rest with
        | high :: low :: rest =>
            match unhex high, unhex low with
            | some high, some low =>
                if mayDecode mode (16 * high + low) then
                  (unescape mode rest).map fun more => UInt8.ofNat (16 * high + low) :: more
                else none
            | _, _ => none
        | _ => none
      else if (mode = .host || mode = .zone) && first < 0x80 && shouldEscape mode first then none
      else (unescape mode rest).map fun more => first :: more

structure Userinfo where
  username : GoString
  password : Option GoString
  deriving DecidableEq, Repr

def Userinfo.string (user : Userinfo) : GoString :=
  escape .userPassword user.username ++
    match user.password with
    | none => []
    | some password => byte ':' :: escape .userPassword password

end URL

/-- `url.URL`. `rawPath` and `rawFragment` are set where the text that was
parsed has another spelling than the default one. -/
structure URL where
  scheme : GoString := []
  opaque_ : GoString := []
  user : Option URL.Userinfo := none
  host : GoString := []
  path : GoString := []
  rawPath : GoString := []
  omitHost : Bool := false
  forceQuery : Bool := false
  rawQuery : GoString := []
  fragment : GoString := []
  rawFragment : GoString := []
  deriving DecidableEq, Repr

namespace URL

/-- The longest beginning that could be a scheme, once the first byte is a letter. -/
def schemeByte (value : UInt8) : Bool :=
  isLetter value || isDigit value || (text "+-.").contains value

/-- `getScheme`: the scheme, empty if there is none, and the rest. -/
def getScheme (raw : GoString) : Option (GoString × GoString) :=
  match raw with
  | [] => some ([], [])
  | first :: _ =>
      if first = byte ':' then none
      else if !isLetter first then some ([], raw)
      else
        match raw.dropWhile schemeByte with
        | colon :: rest => if colon = byte ':' then some (raw.takeWhile schemeByte, rest) else some ([], raw)
        | [] => some ([], raw)

/-- `validOptionalPort`. -/
def validOptionalPort (port : GoString) : Bool :=
  match port with
  | [] => true
  | colon :: digits => colon = byte ':' && digits.all isDigit

section Hosts

-- The texts that `netip.ParseAddr` takes for an IPv6 address.
variable (literal : GoString → Bool)

/-- What stands between brackets, with the zone behind `%25`. -/
def unescapeLiteral (name : GoString) : Option GoString :=
  let zone := (List.range name.length).find? fun index => (text "%25").isPrefixOf (name.drop index)
  match zone with
  | none => unescape .host name
  | some index => do
      let address ← unescape .host (name.take index)
      let suffix ← unescape .zone (name.drop index)
      return address ++ suffix

def parseHost (host : GoString) : Option GoString :=
  match cutLast (byte '[') host with
  | (_, some _) => do
      let (bracketed, after) := cutLast (byte ']') host
      let port ← after
      if validOptionalPort port && bracketed.head? = some (byte '[') then
        let name ← unescapeLiteral bracketed.tail
        if literal name then some (byte '[' :: name ++ byte ']' :: port) else none
      else none
  | (_, none) =>
      match cut (byte ':') host with
      | (_, none) => unescape .host host
      | (_, some port) => if port.all isDigit then unescape .host host else none

def validUserinfo (user : GoString) : Bool :=
  user.all fun each => isLetter each || isDigit each || (text "-._:~!$&'()*+,;=%@").contains each

def parseUserinfo (user : GoString) : Option Userinfo :=
  if validUserinfo user then
    match cut (byte ':') user with
    | (_, none) => do return ⟨← unescape .userPassword user, none⟩
    | (username, some password) => do
        return ⟨← unescape .userPassword username, some (← unescape .userPassword password)⟩
  else none

def parseAuthority (authority : GoString) : Option (Option Userinfo × GoString) :=
  match cutLast (byte '@') authority with
  | (_, none) => do return (none, ← parseHost literal authority)
  | (user, some host) => do
      let host ← parseHost literal host
      return (some (← parseUserinfo user), host)

/-- What `parse` cuts off behind the path: `ForceQuery`, and the query. -/
def cutQuery (rest : GoString) : GoString × Bool × GoString :=
  match cut (byte '?') rest with
  | (rest, none) => (rest, false, [])
  | (rest, some []) => (rest, true, [])
  | (rest, some query) => (rest, false, query)

/-- `setPath` and `setFragment`: what a text stands for, and the text itself
where that is not written so by default. -/
def decoded (mode : Encoding) (value : GoString) : Option (GoString × GoString) := do
  let read ← unescape mode value
  return (read, if escape mode read = value then [] else value)

/-- The part of `parse` behind the scheme. -/
def parseRest (scheme rest : GoString) : Option URL :=
  let (rest, forceQuery, rawQuery) := cutQuery rest
  if rest.head? ≠ some (byte '/') then
    if scheme ≠ [] then some { scheme, opaque_ := rest, forceQuery, rawQuery }
    else if ((cut (byte '/') rest).1).contains (byte ':') then none
    else do
      let (path, rawPath) ← decoded .path rest
      return { path, rawPath, forceQuery, rawQuery }
  else if (text "//").isPrefixOf rest && (scheme ≠ [] || !(text "///").isPrefixOf rest) then do
    let (authority, path) := cut (byte '/') (rest.drop 2)
    let (user, host) ← parseAuthority literal authority
    let (path, rawPath) ← decoded .path ((path.map fun more => byte '/' :: more).getD [])
    return { scheme, user, host, path, rawPath, forceQuery, rawQuery }
  else do
    let (path, rawPath) ← decoded .path rest
    return { scheme, path, rawPath, omitHost := scheme ≠ [], forceQuery, rawQuery }

/-- The inner `parse`, which knows no fragment. -/
def parseBefore (raw : GoString) : Option URL :=
  if raw.any fun each => each < 0x20 || each = 0x7F then none
  else if raw = text "*" then some { path := raw }
  else do
    let (scheme, rest) ← getScheme raw
    parseRest literal (lower scheme) rest

/-- `url.Parse`; `none` is an error. -/
def parse (raw : GoString) : Option URL := do
  let (before, fragment) := cut (byte '#') raw
  let url ← parseBefore literal before
  let (fragment, rawFragment) ← decoded .fragment (fragment.getD [])
  return { url with fragment, rawFragment }

end Hosts

/-- The first step of `splitHostPort`, which leaves the brackets of an IPv6
address where they are. -/
def splitPort (hostPort : GoString) : GoString × GoString :=
  match cutLast (byte ':') hostPort with
  | (before, some port) => if port.all isDigit then (before, port) else (hostPort, [])
  | (_, none) => (hostPort, [])

def splitHostPort (hostPort : GoString) : GoString × GoString :=
  let (host, port) := splitPort hostPort
  if host.head? = some (byte '[') ∧ host.getLast? = some (byte ']') then (host.tail.dropLast, port)
  else (host, port)

variable (url : URL)

/-- `Hostname`. -/
def hostname : GoString := (splitHostPort url.host).1

/-- `Port`. -/
def port : GoString := (splitHostPort url.host).2

/-- `validEncoded`: the text needs no further escapes. -/
def validEncoded (mode : Encoding) (value : GoString) : Bool :=
  value.all fun each => (text "!$&'()*+,;=:@[]%").contains each || !shouldEscape mode each

/-- The spelling that was parsed, as long as it still stands for the value. -/
def spelled (mode : Encoding) (raw value : GoString) : Option GoString :=
  if raw ≠ [] ∧ validEncoded mode raw = true ∧ unescape mode raw = some value then some raw else none

/-- `EscapedPath`. -/
def escapedPath : GoString :=
  (spelled .path url.rawPath url.path).getD
    (if url.path = text "*" then url.path else escape .path url.path)

/-- `EscapedFragment`. -/
def escapedFragment : GoString :=
  (spelled .fragment url.rawFragment url.fragment).getD (escape .fragment url.fragment)

def userText : GoString :=
  match url.user with
  | none => []
  | some user => user.string ++ [byte '@']

/-- What `String` writes between the scheme and the path. -/
def authority : GoString :=
  if url.scheme = [] ∧ url.host = [] ∧ url.user = none then []
  else if url.omitHost = true ∧ url.host = [] ∧ url.user = none then []
  else
    (if url.host ≠ [] ∨ url.path ≠ [] ∨ url.user ≠ none then text "//" else []) ++
      url.userText ++ escape .host url.host

/-- The path as `String` writes it: a slash separates it from a host, and a
colon must not make its beginning a scheme. -/
def pathText : GoString :=
  if url.escapedPath ≠ [] ∧ url.escapedPath.head? ≠ some (byte '/') ∧ url.host ≠ [] then
    byte '/' :: url.escapedPath
  else if url.scheme = [] ∧ url.authority = [] ∧ byte ':' ∈ (cut (byte '/') url.escapedPath).1 then
    text "./" ++ url.escapedPath
  else url.escapedPath

def queryText : GoString :=
  if url.forceQuery = true ∨ url.rawQuery ≠ [] then byte '?' :: url.rawQuery else []

def fragmentText : GoString :=
  if url.fragment = [] then [] else byte '#' :: url.escapedFragment

/-- `String`. -/
def string : GoString :=
  (if url.scheme = [] then [] else url.scheme ++ [byte ':']) ++
    (if url.opaque_ ≠ [] then url.opaque_ else url.authority ++ url.pathText) ++
    url.queryText ++ url.fragmentText

end URL

end NodeAtlas
