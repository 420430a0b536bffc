import NodeAtlas.URL.Hosts

/-! What becomes of a host when the text of a URL is parsed again. -/

set_option autoImplicit false

namespace NodeAtlas

/-- What has no separator is skipped. -/
theorem cut_skip {separator : UInt8} {front rest : GoString} (absent : separator ∉ front) :
    cut separator (front ++ rest) = (front ++ (cut separator rest).1, (cut separator rest).2) := by
  induction front with
  | nil => rfl
  | cons first front ih =>
      have apart := List.ne_of_not_mem_cons absent
      rw [List.cons_append, cut, if_neg (Ne.symm apart), ih (List.not_mem_of_not_mem_cons absent)]
      rfl

namespace URL

/-! ## Escaped texts -/

theorem hex_read : ∀ value : Fin 16, unhex (hexDigits.getD value 0) = some value.val ∧
    hexDigits.getD value 0 ∈ hexDigits := by
  decide

theorem hex_high (value : UInt8) :
    unhex (hexDigits.getD (value.toNat / 16) 0) = some (value.toNat / 16) ∧
      hexDigits.getD (value.toNat / 16) 0 ∈ hexDigits :=
  hex_read ⟨value.toNat / 16, Nat.div_lt_of_lt_mul (UInt8.toNat_lt value)⟩

theorem hex_low (value : UInt8) :
    unhex (hexDigits.getD (value.toNat % 16) 0) = some (value.toNat % 16) ∧
      hexDigits.getD (value.toNat % 16) 0 ∈ hexDigits :=
  hex_read ⟨value.toNat % 16, Nat.mod_lt _ (by decide)⟩

private theorem escape_needed {mode : Encoding} {value : UInt8} (needed : shouldEscape mode value = true) :
    escape mode [value] =
      [byte '%', hexDigits.getD (value.toNat / 16) 0, hexDigits.getD (value.toNat % 16) 0] := by
  simp [escape, needed]

private theorem escape_kept {mode : Encoding} {value : UInt8} (kept : shouldEscape mode value = false) :
    escape mode [value] = [value] := by
  simp [escape, kept]

/-- If an escaped text can be read at all, in any mode, it stands for what was escaped. -/
theorem unescape_escape {mode : Encoding} {value read : GoString}
    (accepted : unescape mode (escape .host value) = some read) : read = value := by
  induction value generalizing read with
  | nil =>
      cases accepted
      rfl
  | cons first rest ih =>
      rw [escape_cons] at accepted
      cases needed : shouldEscape .host first with
      | true =>
          rw [escape_needed needed, List.cons_append, List.cons_append, List.cons_append, List.nil_append,
            unescape] at accepted
          simp only [if_true, (hex_high first).1, (hex_low first).1, Nat.div_add_mod] at accepted
          split at accepted
          · obtain ⟨more, acceptedRest, rfl⟩ := Option.map_eq_some_iff.mp accepted
            rw [ih acceptedRest, UInt8.ofNat_toNat]
          · cases accepted
      | false =>
          have plain : first ≠ byte '%' := by
            intro same
            rw [same] at needed
            exact absurd needed (by decide)
          rw [escape_kept needed, List.cons_append, List.nil_append, unescape.eq_def] at accepted
          simp only [if_neg plain] at accepted
          split at accepted
          · cases accepted
          · obtain ⟨more, acceptedRest, rfl⟩ := Option.map_eq_some_iff.mp accepted
            rw [ih acceptedRest]

/-- An escaped text that is cut at a byte that is no hexadecimal digit is cut
between two bytes of what was escaped. -/
theorem escape_split {mode : Encoding} {value front behind : GoString} {at_ : UInt8}
    (undigit : at_ ∉ hexDigits) (split : escape mode value = front ++ at_ :: behind) :
    ∃ first second, value = first ++ second ∧ escape mode first = front ∧
      escape mode second = at_ :: behind := by
  induction value generalizing front with
  | nil => simp [escape] at split
  | cons head rest ih =>
      cases front with
      | nil => exact ⟨[], head :: rest, rfl, rfl, split⟩
      | cons leading front =>
          rw [escape_cons] at split
          cases needed : shouldEscape mode head with
          | false =>
              simp only [escape_kept needed, List.cons_append, List.nil_append, List.cons.injEq] at split
              obtain ⟨rfl, split⟩ := split
              obtain ⟨first, second, rfl, sameFirst, sameSecond⟩ := ih split
              exact ⟨head :: first, second, rfl, by rw [escape_cons, escape_kept needed, sameFirst]; rfl, sameSecond⟩
          | true =>
              rw [escape_needed needed] at split
              simp only [List.cons_append, List.nil_append, List.cons.injEq] at split
              rcases front with _ | ⟨high, _ | ⟨low, front⟩⟩
              · exact absurd ((List.cons.inj split.2).1 ▸ (hex_high head).2) undigit
              · simp only [List.cons_append, List.nil_append, List.cons.injEq] at split
                exact absurd (split.2.2.1 ▸ (hex_low head).2) undigit
              · simp only [List.cons_append, List.cons.injEq] at split
                obtain ⟨rfl, rfl, rfl, split⟩ := split
                obtain ⟨first, second, rfl, sameFirst, sameSecond⟩ := ih split
                exact ⟨head :: first, second, rfl, by rw [escape_cons, escape_needed needed, sameFirst]; rfl,
                  sameSecond⟩

theorem escape_hostByte {value : GoString} (bytes : ∀ each ∈ value, hostByte each = true) :
    ∀ each ∈ escape .host value, hostByte each = true := by
  have digits : hexDigits.all hostByte = true := by decide
  intro each present
  obtain ⟨origin, listed, found⟩ := List.mem_flatMap.mp present
  split at found
  · simp only [List.mem_cons, List.not_mem_nil, or_false] at found
    rcases found with rfl | rfl | rfl
    · decide
    · exact List.all_eq_true.mp digits _ (hex_high origin).2
    · exact List.all_eq_true.mp digits _ (hex_low origin).2
  · rw [List.mem_singleton.mp found]
    exact bytes origin listed

/-- A text whose escaped form has no percent sign is that form. -/
theorem escape_unmarked {mode : Encoding} {value : GoString} (absent : byte '%' ∉ escape mode value) :
    escape mode value = value := by
  induction value with
  | nil => rfl
  | cons first rest ih =>
      rw [escape_cons] at absent ⊢
      rw [List.mem_append, not_or] at absent
      cases needed : shouldEscape mode first with
      | true => simp [escape_needed needed] at absent
      | false => rw [escape_kept needed, ih absent.2]; rfl

/-! ## Hosts -/

private theorem unescapeLiteral_escape {name read : GoString}
    (accepted : unescapeLiteral (escape .host name) = some read) : read = name := by
  simp only [unescapeLiteral] at accepted
  split at accepted
  · exact unescape_escape accepted
  · rename_i index located
    have marked := List.find?_some located
    obtain ⟨more, zone⟩ := List.isPrefixOf_iff_prefix.mp marked
    have split : escape .host name = (escape .host name).take index ++ byte '%' :: (text "25" ++ more) := by
      conv => lhs; rw [← List.take_append_drop index (escape .host name), ← zone]
      rfl
    obtain ⟨first, second, rfl, sameFirst, sameSecond⟩ := escape_split (by decide) split
    have behind : (escape .host (first ++ second)).drop index = escape .host second := by
      rw [sameSecond, ← zone]
      rfl
    rw [behind, ← sameFirst] at accepted
    simp only [Option.bind_eq_bind, Option.bind_eq_some_iff] at accepted
    obtain ⟨address, acceptedAddress, suffix, acceptedSuffix, same⟩ := accepted
    cases same
    rw [unescape_escape acceptedAddress, unescape_escape acceptedSuffix]

private theorem unmarked_port {port : GoString} (valid : validOptionalPort port = true) : byte '%' ∉ port := by
  intro present
  cases port with
  | nil => cases present
  | cons colon digits =>
      simp only [validOptionalPort, Bool.and_eq_true, decide_eq_true_eq] at valid
      obtain ⟨rfl, plain⟩ := valid
      cases List.mem_cons.mp present with
      | inl same => exact absurd same (by decide)
      | inr present => exact absurd (List.all_eq_true.mp plain _ present) (by decide)

/-- The escaped form of a host is read as the host, if it is read. -/
theorem parseHost_escape {literal : GoString → Bool} {host read : GoString}
    (accepted : parseHost literal (escape .host host) = some read) : read = host := by
  unfold parseHost at accepted
  split at accepted
  · simp only [Option.bind_eq_bind, Option.bind_eq_some_iff] at accepted
    obtain ⟨port, located, accepted⟩ := accepted
    split at accepted
    · rename_i valid
      rw [Bool.and_eq_true, decide_eq_true_eq] at valid
      obtain ⟨name, acceptedName, accepted⟩ := Option.bind_eq_some_iff.mp accepted
      split at accepted
      · cases accepted
        obtain ⟨bracketed, after⟩ : ∃ bracketed, cutLast (byte ']') (escape .host host) = (bracketed, some port) :=
          ⟨_, Prod.ext rfl located⟩
        rw [after] at valid acceptedName
        obtain ⟨split, _⟩ := cutLast_some after
        obtain ⟨first, second, rfl, sameFirst, sameSecond⟩ := escape_split (by decide) split
        have unmarked : byte '%' ∉ escape .host second := by
          rw [sameSecond]
          intro present
          cases List.mem_cons.mp present with
          | inl same => exact absurd same (by decide)
          | inr present => exact unmarked_port valid.1 present
        rw [escape_unmarked unmarked] at sameSecond
        rw [← sameFirst] at valid acceptedName
        rw [sameSecond]
        cases first with
        | nil => simp [escape] at valid
        | cons bracket inner =>
            rw [escape_cons] at valid acceptedName
            cases needed : shouldEscape .host bracket with
            | true => simp [escape_needed needed, byte] at valid
            | false =>
                rw [escape_kept needed] at valid acceptedName
                have opened : bracket = byte '[' := by simpa using valid.2
                rw [unescapeLiteral_escape acceptedName, opened]
      · cases accepted
    · cases accepted
  · split at accepted
    · exact unescape_escape accepted
    · split at accepted
      · exact unescape_escape accepted
      · cases accepted

/-! ## Parsing again -/

/-- A text that does not go on with the host before it. -/
def Stops (rest : GoString) : Prop :=
  ∀ first, rest.head? = some first → first = byte '/' ∨ first = byte '?' ∨ first = byte '#'

private theorem cut_clean (separator : UInt8) (value : GoString) : separator ∉ (cut separator value).1 := by
  rcases located : cut separator value with ⟨before, _ | after⟩
  · obtain ⟨rfl, absent⟩ := cut_none located
    exact absent
  · exact (cut_some located).2

private theorem cut_head {separator first : UInt8} {value : GoString}
    (found : (cut separator value).1.head? = some first) : value.head? = some first := by
  cases value with
  | nil => cases found
  | cons head rest =>
      rw [cut] at found
      split at found
      · cases found
      · exact found

private theorem cutQuery_path (rest : GoString) : (cutQuery rest).1 = (cut (byte '?') rest).1 := by
  unfold cutQuery
  split <;> simp [*]

private theorem getScheme_https (rest : GoString) :
    getScheme (text "https" ++ byte ':' :: rest) = some (text "https", rest) := by
  rfl

/-- However the text goes on behind it, the host is read again as it is. -/
theorem parse_again {literal : GoString → Bool} {host rest : GoString} {url : URL}
    (bytes : ∀ each ∈ host, hostByte each = true) (stops : Stops rest)
    (accepted : parse literal (text "https" ++ byte ':' :: text "//" ++ escape .host host ++ rest) = some url) :
    url.scheme = text "https" ∧ url.host = host ∧ url.user = none := by
  have clean : ∀ each, hostByte each = false → each ∉ escape .host host := by
    intro each other present
    rw [escape_hostByte bytes each present] at other
    cases other
  have noFragment : byte '#' ∉ text "https" ++ byte ':' :: text "//" ++ escape .host host := by
    rw [List.mem_append, not_or]
    exact ⟨by decide, clean _ (by decide)⟩
  have noQuery : byte '?' ∉ text "//" ++ escape .host host := by
    rw [List.mem_append, not_or]
    exact ⟨by decide, clean _ (by decide)⟩
  simp only [parse, Option.bind_eq_bind, Option.bind_eq_some_iff] at accepted
  obtain ⟨parsed, acceptedBefore, _, _, same⟩ := accepted
  cases same
  change parsed.scheme = _ ∧ parsed.host = _ ∧ parsed.user = _
  rw [cut_skip noFragment] at acceptedBefore
  have fragmentless := cut_clean (byte '#') rest
  have heads : ∀ first, (cut (byte '#') rest).1.head? = some first → first = byte '/' ∨ first = byte '?' := by
    intro first found
    rcases stops first (cut_head found) with slash | question | hash
    · exact .inl slash
    · exact .inr question
    · rw [hash] at found
      exact absurd (List.mem_of_head? found) fragmentless
  generalize (cut (byte '#') rest).1 = behind at acceptedBefore heads
  unfold parseBefore at acceptedBefore
  split at acceptedBefore
  · cases acceptedBefore
  · split at acceptedBefore
    · rename_i star
      have first : some (byte 'h') = some (byte '*') := congrArg List.head? star
      exact absurd first (by decide)
    · rw [List.append_assoc, List.append_assoc, List.cons_append, getScheme_https] at acceptedBefore
      simp only [Option.bind_eq_bind, Option.bind_some] at acceptedBefore
      have lowered : lower (text "https") = text "https" := by decide
      rw [lowered, ← List.append_assoc] at acceptedBefore
      have path : (cutQuery (text "//" ++ escape .host host ++ behind)).1 =
          text "//" ++ escape .host host ++ (cut (byte '?') behind).1 := by
        rw [cutQuery_path, cut_skip noQuery]
      have separated : (cut (byte '/') (cut (byte '?') behind).1).1 = [] := by
        have queryless := cut_clean (byte '?') behind
        rcases known : (cut (byte '?') behind).1 with _ | ⟨first, more⟩
        · rfl
        · rw [known] at queryless
          rcases heads first (cut_head (by rw [known]; rfl)) with slash | question
          · rw [slash, cut, if_pos rfl]
          · exact absurd (question ▸ List.mem_cons_self) queryless
      generalize (cut (byte '?') behind).1 = trailing at path separated
      simp only [parseRest, path] at acceptedBefore
      split at acceptedBefore
      · rename_i unrooted
        exact absurd rfl unrooted
      · split at acceptedBefore
        · simp only [Option.bind_eq_bind, Option.bind_eq_some_iff] at acceptedBefore
          obtain ⟨⟨user, read⟩, acceptedAuthority, _, _, same⟩ := acceptedBefore
          cases same
          have noPath : byte '/' ∉ escape .host host := clean _ (by decide)
          have authority : (cut (byte '/') ((text "//" ++ escape .host host ++ trailing).drop 2)).1 =
              escape .host host := by
            change (cut (byte '/') (escape .host host ++ trailing)).1 = _
            rw [cut_skip noPath, separated, List.append_nil]
          rw [authority] at acceptedAuthority
          have noUser : byte '@' ∉ escape .host host := clean _ (by decide)
          simp only [parseAuthority, cutLast_absent noUser, Option.bind_eq_bind, Option.bind_eq_some_iff]
            at acceptedAuthority
          obtain ⟨_, acceptedHost, same⟩ := acceptedAuthority
          cases same
          exact ⟨rfl, parseHost_escape acceptedHost, rfl⟩
        · rename_i unmarked
          exact absurd (by simp [text]) unmarked

/-- The text of a URL stops behind its host. -/
theorem string_stops {url : URL} (named : url.host ≠ []) :
    Stops (url.pathText ++ url.queryText ++ url.fragmentText) := by
  intro first found
  cases pathText_rooted named with
  | inr slash =>
      obtain ⟨more, slash⟩ := slash
      rw [slash] at found
      exact .inl (Option.some.inj found).symm
  | inl empty =>
      rw [empty.1, List.nil_append] at found
      unfold queryText at found
      split at found
      · exact .inr (.inl (Option.some.inj found).symm)
      · rw [List.nil_append, fragmentText] at found
        split at found
        · cases found
        · exact .inr (.inr (Option.some.inj found).symm)

end URL

end NodeAtlas
