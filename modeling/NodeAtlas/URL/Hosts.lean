import NodeAtlas.URL

/-! What the hosts of parsed URLs look like, and where their ports begin. -/

set_option autoImplicit false

namespace NodeAtlas

/-- A statement about every byte is decided by trying all of them. -/
instance decidableForallByte (statement : UInt8 → Prop) [DecidablePred statement] :
    Decidable (∀ value, statement value) :=
  decidable_of_iff (∀ value : Fin 256, statement (UInt8.ofNat value)) ⟨fun every value => by
    have found := every ⟨value.toNat, value.toNat_lt⟩
    rwa [UInt8.ofNat_toNat] at found, fun every value => every _⟩

theorem cut_some {separator : UInt8} {value before after : GoString}
    (found : cut separator value = (before, some after)) :
    value = before ++ separator :: after ∧ separator ∉ before := by
  induction value generalizing before with
  | nil => cases found
  | cons first rest ih =>
      rw [cut] at found
      split at found
      · cases found
        simp_all
      · rename_i different
        rcases answer : cut separator rest with ⟨inner, behind⟩
        rw [answer] at found
        cases found
        obtain ⟨split, absent⟩ := ih answer
        exact ⟨by rw [split]; rfl, by simp [absent, Ne.symm different]⟩

theorem cut_none {separator : UInt8} {value before : GoString}
    (missing : cut separator value = (before, none)) : before = value ∧ separator ∉ value := by
  induction value generalizing before with
  | nil => cases missing; simp
  | cons first rest ih =>
      rw [cut] at missing
      split at missing
      · cases missing
      · rename_i different
        rcases answer : cut separator rest with ⟨inner, behind⟩
        rw [answer] at missing
        cases missing
        obtain ⟨same, absent⟩ := ih answer
        exact ⟨by rw [same], by simp [absent, Ne.symm different]⟩

theorem cutLast_some {separator : UInt8} {value before after : GoString}
    (found : cutLast separator value = (before, some after)) :
    value = before ++ separator :: after ∧ separator ∉ after := by
  unfold cutLast at found
  split at found
  · cases found
  · rename_i behind ahead located
    cases found
    obtain ⟨split, absent⟩ := cut_some located
    refine ⟨?_, by simpa using absent⟩
    rw [← List.reverse_reverse value, split]
    simp

theorem cut_absent {separator : UInt8} {value : GoString} (absent : separator ∉ value) :
    cut separator value = (value, none) := by
  induction value with
  | nil => rfl
  | cons first rest ih =>
      have apart := List.ne_of_not_mem_cons absent
      rw [cut, if_neg (Ne.symm apart), ih (List.not_mem_of_not_mem_cons absent)]

theorem cutLast_append {separator : UInt8} {before after : GoString} (absent : separator ∉ after) :
    cutLast separator (before ++ separator :: after) = (before, some after) := by
  unfold cutLast
  rw [List.reverse_append, List.reverse_cons, List.append_assoc]
  rw [show [separator] ++ before.reverse = separator :: before.reverse from rfl,
    cut_append (by simpa using absent)]
  simp

theorem cutLast_absent {separator : UInt8} {value : GoString} (absent : separator ∉ value) :
    cutLast separator value = (value, none) := by
  unfold cutLast
  rw [cut_absent (by simpa using absent)]

namespace URL

/-! ## Reading a host -/

/-- What bytes the host of a parsed URL is made of. -/
def hostByte (value : UInt8) : Bool :=
  0x80 ≤ value || value = byte '%' || value = byte ' ' || !shouldEscape .host value

private theorem every_byte : ∀ value : UInt8,
    (∀ mode ∈ [Encoding.host, Encoding.zone],
      (mayDecode mode value.toNat = true → hostByte value = true) ∧
        (¬(value < 0x80 ∧ shouldEscape mode value = true) → hostByte value = true)) ∧
      (mayDecode .host value.toNat = true → value ≠ byte ':') ∧
      (isDigit value = true → hostByte value = true) ∧ ∀ digit ∈ unhex value, digit < 16 := by
  decide +kernel

private theorem decoded_hostByte {mode : Encoding} (named : mode = .host ∨ mode = .zone) {value : Nat}
    (small : value < 256) (decodes : mayDecode mode value = true) :
    hostByte (UInt8.ofNat value) = true := by
  have read := ((every_byte (UInt8.ofNat value)).1 mode (by simpa using named)).1
  rw [UInt8.toNat_ofNat_of_lt' small] at read
  exact read decodes

private theorem decoded_apart {value : Nat} (small : value < 256)
    (decodes : mayDecode .host value = true) : UInt8.ofNat value ≠ byte ':' := by
  have read := (every_byte (UInt8.ofNat value)).2.1
  rw [UInt8.toNat_ofNat_of_lt' small] at read
  exact read decodes

private theorem literal_hostByte {mode : Encoding} (named : mode = .host ∨ mode = .zone) {value : UInt8}
    (kept : ¬(value < 0x80 ∧ shouldEscape mode value = true)) : hostByte value = true :=
  ((every_byte value).1 mode (by simpa using named)).2 kept

private theorem unhex_small {value : UInt8} {digit : Nat} (read : unhex value = some digit) : digit < 16 :=
  (every_byte value).2.2.2 digit read

/-- How a text is read: byte by byte, or two hexadecimal digits at a time. -/
inductive Unescapes (mode : Encoding) : GoString → GoString → Prop where
  | nil : Unescapes mode [] []
  | decoded {high low : UInt8} {rest more : GoString} {value : Nat} (highApart : high ≠ byte ':')
      (lowApart : low ≠ byte ':') (small : value < 256) (decodes : mayDecode mode value = true)
      (reads : Unescapes mode rest more) :
      Unescapes mode (byte '%' :: high :: low :: rest) (UInt8.ofNat value :: more)
  | literal {first : UInt8} {rest more : GoString} (plain : first ≠ byte '%')
      (kept : ¬((mode = .host ∨ mode = .zone) ∧ first < 0x80 ∧ shouldEscape mode first = true))
      (reads : Unescapes mode rest more) : Unescapes mode (first :: rest) (first :: more)

private theorem unhex_apart {value : UInt8} {digit : Nat} (read : unhex value = some digit) :
    value ≠ byte ':' := by
  intro same
  have unread : unhex (byte ':') = none := by decide
  rw [same, unread] at read
  cases read

theorem unescape_reads {mode : Encoding} {value read : GoString}
    (accepted : unescape mode value = some read) : Unescapes mode value read := by
  induction value using unescape.induct mode generalizing read with
  | case1 =>
      cases accepted
      exact .nil
  | case2 high low rest first second readSecond readFirst decodes ih =>
      rw [unescape] at accepted
      simp only [readFirst, readSecond, decodes, if_true] at accepted
      obtain ⟨more, acceptedRest, rfl⟩ := Option.map_eq_some_iff.mp accepted
      have := unhex_small readFirst
      have := unhex_small readSecond
      exact .decoded (unhex_apart readFirst) (unhex_apart readSecond) (by omega) decodes (ih acceptedRest)
  | case3 high low rest first second readSecond readFirst refused =>
      rw [unescape] at accepted
      simp [readFirst, readSecond, refused] at accepted
  | case4 high low rest unread =>
      rw [unescape.eq_def] at accepted
      simp only [if_true] at accepted
      cases accepted
  | case5 rest short =>
      rw [unescape.eq_def] at accepted
      simp only [if_true] at accepted
      cases accepted
  | case6 first rest plain refused =>
      rw [unescape.eq_def] at accepted
      simp only [if_neg plain, if_pos refused] at accepted
      cases accepted
  | case7 first rest plain kept ih =>
      rw [unescape.eq_def] at accepted
      simp only [if_neg plain, if_neg kept] at accepted
      obtain ⟨more, acceptedRest, rfl⟩ := Option.map_eq_some_iff.mp accepted
      exact .literal plain (by simpa using kept) (ih acceptedRest)

theorem Unescapes.bytes {mode : Encoding} (named : mode = .host ∨ mode = .zone)
    {value read : GoString} (reads : Unescapes mode value read) :
    ∀ each ∈ read, hostByte each = true := by
  induction reads with
  | nil => simp
  | decoded _ _ small decodes _ ih => exact List.forall_mem_cons.mpr ⟨decoded_hostByte named small decodes, ih⟩
  | literal _ kept _ ih =>
      exact List.forall_mem_cons.mpr ⟨literal_hostByte named fun both => kept ⟨named, both⟩, ih⟩

/-- No encoding of a host stands for a colon. -/
theorem Unescapes.unported {value read : GoString} (reads : Unescapes .host value read)
    (absent : byte ':' ∉ value) : byte ':' ∉ read := by
  induction reads with
  | nil => exact absent
  | decoded _ _ small decodes _ ih =>
      have apart := (decoded_apart small decodes).symm
      have behind := ih (by simp_all)
      exact List.not_mem_cons_of_ne_of_not_mem apart behind
  | literal _ _ _ ih =>
      have behind := ih (by simp_all)
      exact List.not_mem_cons_of_ne_of_not_mem (List.ne_of_not_mem_cons absent) behind

theorem Unescapes.digits {value read : GoString} (reads : Unescapes .host value read)
    (plain : value.all isDigit = true) : read = value := by
  induction reads with
  | nil => rfl
  | decoded => exact absurd (List.all_eq_true.mp plain (byte '%') List.mem_cons_self) (by decide)
  | literal _ _ _ ih => rw [ih (by simp_all)]

/-- The first colon of a host stays where it is. -/
theorem Unescapes.ported {value read before port : GoString} (reads : Unescapes .host value read)
    (split : value = before ++ byte ':' :: port) (absent : byte ':' ∉ before)
    (digits : port.all isDigit = true) :
    ∃ name, read = name ++ byte ':' :: port ∧ byte ':' ∉ name := by
  induction reads generalizing before with
  | nil => simp at split
  | decoded highApart lowApart small decodes _ ih =>
      rcases before with _ | ⟨_, _ | ⟨_, _ | ⟨_, inner⟩⟩⟩
      · exact absurd (List.cons.inj split).1 (by decide)
      · exact absurd (List.cons.inj (List.cons.inj split).2).1 highApart
      · exact absurd (List.cons.inj (List.cons.inj (List.cons.inj split).2).2).1 lowApart
      · simp only [List.cons_append, List.cons.injEq] at split
        obtain ⟨name, rfl, unported⟩ := ih split.2.2.2 (by simp_all)
        have apart := (decoded_apart small decodes).symm
        exact ⟨_ :: name, rfl, List.not_mem_cons_of_ne_of_not_mem apart unported⟩
  | literal _ _ reads ih =>
      cases before with
      | nil =>
          obtain ⟨rfl, rfl⟩ := List.cons.inj split
          exact ⟨[], by rw [reads.digits digits]; rfl, by simp⟩
      | cons _ inner =>
          simp only [List.cons_append, List.cons.injEq] at split
          obtain ⟨rfl, split⟩ := split
          obtain ⟨name, rfl, unported⟩ := ih split (List.not_mem_of_not_mem_cons absent)
          have apart := List.ne_of_not_mem_cons absent
          exact ⟨_ :: name, rfl, List.not_mem_cons_of_ne_of_not_mem apart unported⟩

/-! ## Hosts and ports -/

/-- A host that no port stands behind. -/
def Bare (name : GoString) : Prop := byte ':' ∉ name ∨ name.getLast? = some (byte ']')

theorem digits_uncolon {digits : GoString} (plain : digits.all isDigit = true) : byte ':' ∉ digits := by
  intro present
  exact absurd (List.all_eq_true.mp plain _ present) (by decide)

/-- A host is split where its port begins. -/
theorem splitPort_bare {name tail : GoString} (bare : Bare name) (valid : validOptionalPort tail = true) :
    splitPort (name ++ tail) = (name, tail.tail) := by
  cases tail with
  | cons colon digits =>
      simp only [validOptionalPort, Bool.and_eq_true, decide_eq_true_eq] at valid
      obtain ⟨rfl, plain⟩ := valid
      simp only [splitPort, cutLast_append (digits_uncolon plain), if_pos plain, List.tail_cons]
  | nil =>
      rw [List.append_nil, splitPort]
      cases bare with
      | inl unported => rw [cutLast_absent unported]; rfl
      | inr closed =>
          rcases located : cutLast (byte ':') name with ⟨before, _ | port⟩
          · rfl
          · obtain ⟨rfl, _⟩ := cutLast_some located
            have unplain : ¬port.all isDigit = true := by
              intro plain
              rw [List.getLast?_append_of_ne_nil _ (List.cons_ne_nil _ _)] at closed
              have present : byte ']' ∈ byte ':' :: port := List.mem_of_getLast? closed
              cases List.mem_cons.mp present with
              | inl same => exact absurd same (by decide)
              | inr present => exact absurd (List.all_eq_true.mp plain _ present) (by decide)
            simp only [if_neg unplain, List.tail_nil]

theorem bare_unique {left right first second : GoString} (leftBare : Bare left) (rightBare : Bare right)
    (leftValid : validOptionalPort first = true) (rightValid : validOptionalPort second = true)
    (same : left ++ first = right ++ second) : left = right ∧ first = second := by
  have split := splitPort_bare leftBare leftValid
  rw [same, splitPort_bare rightBare rightValid] at split
  obtain rfl : left = right := (congrArg Prod.fst split).symm
  exact ⟨rfl, List.append_cancel_left same⟩

/-- What `parseHost` lets pass. -/
structure Hosted (host : GoString) : Prop where
  bytes : ∀ each ∈ host, hostByte each = true
  split : ∃ name tail, host = name ++ tail ∧ Bare name ∧ validOptionalPort tail = true

theorem port_hostByte {port : GoString} (valid : validOptionalPort port = true) :
    ∀ each ∈ port, hostByte each = true := by
  cases port with
  | nil => simp
  | cons colon digits =>
      simp only [validOptionalPort, Bool.and_eq_true, decide_eq_true_eq] at valid
      obtain ⟨rfl, plain⟩ := valid
      refine List.forall_mem_cons.mpr ⟨by decide, fun each present => ?_⟩
      exact (every_byte each).2.2.1 (List.all_eq_true.mp plain each present)

private theorem unescapeLiteral_bytes {name read : GoString} (accepted : unescapeLiteral name = some read) :
    ∀ each ∈ read, hostByte each = true := by
  simp only [unescapeLiteral] at accepted
  split at accepted
  · exact (unescape_reads accepted).bytes (.inl rfl)
  · simp only [Option.bind_eq_bind, Option.bind_eq_some_iff] at accepted
    obtain ⟨address, acceptedAddress, suffix, acceptedSuffix, same⟩ := accepted
    cases same
    intro each present
    cases List.mem_append.mp present with
    | inl present => exact (unescape_reads acceptedAddress).bytes (.inl rfl) each present
    | inr present => exact (unescape_reads acceptedSuffix).bytes (.inr rfl) each present

theorem parseHost_hosted {literal : GoString → Bool} {host read : GoString}
    (accepted : parseHost literal host = some read) : Hosted read := by
  unfold parseHost at accepted
  split at accepted
  · simp only [Option.bind_eq_bind, Option.bind_eq_some_iff] at accepted
    obtain ⟨port, _, accepted⟩ := accepted
    split at accepted
    · rename_i valid
      rw [Bool.and_eq_true] at valid
      obtain ⟨name, acceptedName, accepted⟩ := Option.bind_eq_some_iff.mp accepted
      split at accepted
      · cases accepted
        constructor
        · intro each present
          simp only [List.cons_append, List.mem_cons, List.mem_append] at present
          rcases present with rfl | present | rfl | present
          · decide
          · exact unescapeLiteral_bytes acceptedName each present
          · decide
          · exact port_hostByte valid.1 each present
        · exact ⟨byte '[' :: name ++ [byte ']'], port, by simp, .inr List.getLast?_concat, valid.1⟩
      · cases accepted
    · cases accepted
  · split at accepted
    · rename_i located
      have reads := unescape_reads accepted
      have unported := reads.unported (cut_none located).2
      exact ⟨reads.bytes (.inl rfl), read, [], (List.append_nil read).symm, .inl unported, rfl⟩
    · rename_i located
      split at accepted
      · rename_i plain
        have reads := unescape_reads accepted
        obtain ⟨name, same, unported⟩ := reads.ported (cut_some located).1 (cut_some located).2 plain
        exact ⟨reads.bytes (.inl rfl), name, _, same, .inl unported, by simp [validOptionalPort, plain]⟩
      · cases accepted

private theorem parseAuthority_hosted {literal : GoString → Bool} {authority host : GoString}
    {user : Option Userinfo} (accepted : parseAuthority literal authority = some (user, host)) :
    Hosted host := by
  unfold parseAuthority at accepted
  split at accepted
  · simp only [Option.bind_eq_bind, Option.bind_eq_some_iff] at accepted
    obtain ⟨_, acceptedHost, same⟩ := accepted
    cases same
    exact parseHost_hosted acceptedHost
  · simp only [Option.bind_eq_bind, Option.bind_eq_some_iff] at accepted
    obtain ⟨_, acceptedHost, _, _, same⟩ := accepted
    cases same
    exact parseHost_hosted acceptedHost

/-- A URL with a host is not an opaque one. -/
theorem parse_hosted {literal : GoString → Bool} {raw : GoString} {url : URL}
    (accepted : parse literal raw = some url) (named : url.host ≠ []) :
    Hosted url.host ∧ url.opaque_ = [] := by
  simp only [parse, Option.bind_eq_bind, Option.bind_eq_some_iff] at accepted
  obtain ⟨parsed, acceptedBefore, _, _, same⟩ := accepted
  cases same
  unfold parseBefore at acceptedBefore
  split at acceptedBefore
  · cases acceptedBefore
  · split at acceptedBefore
    · cases acceptedBefore
      exact absurd rfl named
    · simp only [Option.bind_eq_bind, Option.bind_eq_some_iff] at acceptedBefore
      obtain ⟨⟨scheme, rest⟩, _, acceptedRest⟩ := acceptedBefore
      unfold parseRest at acceptedRest
      dsimp only at acceptedRest
      split at acceptedRest
      · split at acceptedRest
        · cases acceptedRest
          exact absurd rfl named
        · split at acceptedRest
          · cases acceptedRest
          · simp only [Option.bind_eq_bind, Option.bind_eq_some_iff] at acceptedRest
            obtain ⟨_, _, same⟩ := acceptedRest
            cases same
            exact absurd rfl named
      · split at acceptedRest
        · simp only [Option.bind_eq_bind, Option.bind_eq_some_iff] at acceptedRest
          obtain ⟨⟨user, host⟩, acceptedAuthority, ⟨path, rawPath⟩, acceptedPath, same⟩ := acceptedRest
          cases same
          exact ⟨parseAuthority_hosted acceptedAuthority, rfl⟩
        · simp only [Option.bind_eq_bind, Option.bind_eq_some_iff] at acceptedRest
          obtain ⟨_, _, same⟩ := acceptedRest
          cases same
          exact absurd rfl named

/-! ## The text of a URL with a host -/

variable {url : URL}

theorem string_hosted (direct : url.opaque_ = []) (absolute : url.scheme ≠ []) (named : url.host ≠ []) :
    url.string = url.scheme ++ byte ':' :: text "//" ++ url.userText ++ escape .host url.host ++
      url.pathText ++ url.queryText ++ url.fragmentText := by
  have authority : url.authority = text "//" ++ url.userText ++ escape .host url.host := by
    simp [URL.authority, named]
  simp only [string, if_neg absolute, direct, ne_eq, not_true, if_false, authority, List.append_assoc,
    List.cons_append, List.nil_append]

/-- Behind a host stands nothing, or a slash. -/
theorem pathText_rooted (named : url.host ≠ []) :
    url.pathText = [] ∧ url.escapedPath = [] ∨ ∃ more, url.pathText = byte '/' :: more := by
  unfold pathText
  have authority : url.authority ≠ [] := by
    have slashes : text "//" ≠ [] := by decide
    simp [URL.authority, named, slashes]
  simp only [authority, false_and, and_false, if_false, named, ne_eq, not_false_eq_true, and_true]
  split
  · exact .inr ⟨_, rfl⟩
  · next written =>
      rcases known : url.escapedPath with _ | ⟨first, more⟩
      · exact .inl ⟨rfl, rfl⟩
      · have slash : first = byte '/' := by
          by_contra other
          exact written ⟨by simp [known], by simp [known, other]⟩
        exact .inr ⟨more, by rw [slash]⟩

theorem escape_append (mode : Encoding) (first second : GoString) :
    escape mode (first ++ second) = escape mode first ++ escape mode second :=
  List.flatMap_append

theorem escape_cons (mode : Encoding) (first : UInt8) (rest : GoString) :
    escape mode (first :: rest) = escape mode [first] ++ escape mode rest :=
  escape_append mode [first] rest

theorem escape_length (mode : Encoding) (value : GoString) : value.length ≤ (escape mode value).length := by
  induction value with
  | nil => exact Nat.le_refl 0
  | cons first rest ih =>
      rw [escape_cons, List.length_append, List.length_cons]
      have head : 1 ≤ (escape mode [first]).length := by
        unfold escape
        simp only [List.flatMap_cons, List.flatMap_nil, List.append_nil]
        split <;> simp
      omega

theorem escapedPath_empty : url.escapedPath = [] ↔ url.path = [] := by
  unfold escapedPath spelled
  split
  · next spelling =>
      obtain ⟨written, _, read⟩ := spelling
      constructor
      · intro empty
        exact absurd empty written
      · intro empty
        rw [empty] at read
        generalize raw : url.rawPath = value at read written
        cases unescape_reads read
        exact absurd rfl written
  · constructor
    · intro empty
      by_cases star : url.path = text "*"
      · rw [Option.getD_none, if_pos star] at empty
        exact empty
      · rw [Option.getD_none, if_neg star] at empty
        have bound := escape_length .path url.path
        rw [empty] at bound
        exact List.length_eq_zero_iff.mp (Nat.le_zero.mp bound)
    · intro empty
      simp [empty, escape]

end URL

end NodeAtlas
