import NodeAtlas.JSON
import NodeAtlas.Spaces

/-! Texts that are UTF-8, and where they can be cut. -/

set_option autoImplicit false

namespace NodeAtlas.UTF8

def validWithin : Nat → GoString → Bool
  | 0, value => value.isEmpty
  | bound + 1, value =>
      value.isEmpty ||
        match runeLength value with
        | 0 => false
        | more + 1 => validWithin bound (value.drop (more + 1))

/-- `utf8.ValidString` -/
def valid (value : GoString) : Bool := validWithin value.length value

/-- A byte with which no rune begins, but one goes on. -/
def continuation (value : UInt8) : Bool := continues 0x80 0xBF value

/-! ## Runes -/

/-- The bytes of one rune. -/
inductive Rune : GoString → Prop where
  | one {first : UInt8} (ascii : first < 0x80) : Rune [first]
  | two {first second : UInt8} (leads : continues 0xC2 0xDF first = true)
      (follows : continuation second = true) : Rune [first, second]
  | three {first second third : UInt8} (leads : continues 0xE0 0xEF first = true)
      (least : continues (if first = 0xE0 then 0xA0 else 0x80) (if first = 0xED then 0x9F else 0xBF) second = true)
      (follows : continuation third = true) : Rune [first, second, third]
  | four {first second third fourth : UInt8} (leads : continues 0xF0 0xF4 first = true)
      (least : continues (if first = 0xF0 then 0x90 else 0x80) (if first = 0xF4 then 0x8F else 0xBF) second = true)
      (follows : continuation third = true) (ends : continuation fourth = true) :
      Rune [first, second, third, fourth]

/-- Runes one after the other. -/
inductive Runes : GoString → Prop where
  | nil : Runes []
  | cons {rune rest : GoString} (first : Rune rune) (more : Runes rest) : Runes (rune ++ rest)

private theorem between {low high value : UInt8} (inside : continues low high value = true) :
    low ≤ value ∧ value ≤ high := by
  simpa [continues] using inside

private theorem apart {low high value : UInt8} (inside : continues low high value = true) (other : UInt8)
    (outside : other < low) : ¬ value ≤ other :=
  fun below => absurd (UInt8.lt_of_le_of_lt below outside) (UInt8.not_lt.mpr (between inside).1)

private theorem narrow {low high least most value : UInt8} (inside : continues low high value = true)
    (above : least ≤ low) (below : high ≤ most) : continues least most value = true := by
  have bounds := between inside
  simp only [continues, Bool.and_eq_true, decide_eq_true_eq]
  exact ⟨UInt8.le_trans above bounds.1, UInt8.le_trans bounds.2 below⟩

theorem Rune.nonempty {rune : GoString} (bytes : Rune rune) : rune ≠ [] := by
  cases bytes <;> simp

/-- A rune begins with no continuation, and goes on with nothing else. -/
theorem Rune.shape {rune : GoString} (bytes : Rune rune) :
    ∃ first tail, rune = first :: tail ∧ continuation first = false ∧ ∀ c ∈ tail, continuation c = true := by
  have leading : ∀ {low high first : UInt8}, continues low high first = true → 0xBF < low →
      continuation first = false := by
    intro low high first leads above
    simp only [continuation, continues, Bool.and_eq_false_iff, decide_eq_false_iff_not]
    exact .inr (apart leads 0xBF above)
  cases bytes with
  | one ascii =>
      refine ⟨_, [], rfl, ?_, by simp⟩
      simp only [continuation, continues, Bool.and_eq_false_iff, decide_eq_false_iff_not]
      exact .inl fun above => absurd ascii (UInt8.not_lt.mpr above)
  | two leads follows => exact ⟨_, _, rfl, leading leads (by decide), by simpa using follows⟩
  | @three first second third leads least follows =>
      have inside : continuation second = true := by
        apply narrow least
        · split <;> decide
        · split <;> decide
      exact ⟨_, _, rfl, leading leads (by decide), by simp [inside, follows]⟩
  | @four first second third fourth leads least follows ends =>
      have inside : continuation second = true := by
        apply narrow least
        · split <;> decide
        · split <;> decide
      exact ⟨_, _, rfl, leading leads (by decide), by simp [inside, follows, ends]⟩

/-- What follows a rune is not looked at. -/
theorem Rune.length {rune : GoString} (bytes : Rune rune) (rest : GoString) :
    runeLength (rune ++ rest) = rune.length := by
  have past : ∀ {low high first : UInt8} (other : UInt8), continues low high first = true → other < low →
      ∀ least, continues least other first = false := by
    intro low high first other leads above least
    simp only [continues, Bool.and_eq_false_iff, decide_eq_false_iff_not]
    exact .inr (apart leads other above)
  have large : ∀ {low high first : UInt8}, continues low high first = true → 0x80 ≤ low → ¬ first < 0x80 := by
    intro low high first leads above below
    exact absurd (UInt8.lt_of_lt_of_le below above) (UInt8.not_lt.mpr (between leads).1)
  cases bytes with
  | one ascii => simp [runeLength, ascii]
  | two leads follows =>
      have tail : continues 0x80 0xBF _ = true := follows
      simp [runeLength, large leads (by decide), leads, tail]
  | three leads least follows =>
      have tail : continues 0x80 0xBF _ = true := follows
      simp [runeLength, large leads (by decide), past 0xDF leads (by decide), leads, least, tail]
  | four leads least follows ends =>
      have third : continues 0x80 0xBF _ = true := follows
      have fourth : continues 0x80 0xBF _ = true := ends
      simp [runeLength, large leads (by decide), past 0xDF leads (by decide), past 0xEF leads (by decide),
        leads, least, third, fourth]

private theorem taken {whole : Bool} {size more : Nat} (rune : (if whole then size else 0) = more + 1) :
    whole = true ∧ more + 1 = size := by
  cases whole with
  | true => exact ⟨rfl, rune.symm⟩
  | false => cases rune

/-- A text that begins with a rune. -/
theorem rune_first {value : GoString} {more : Nat} (read : runeLength value = more + 1) :
    ∃ rune rest, value = rune ++ rest ∧ Rune rune ∧ rune.length = more + 1 := by
  cases value with
  | nil => cases read
  | cons first rest =>
      simp only [runeLength] at read
      split at read
      · next ascii =>
          cases read
          exact ⟨[first], rest, rfl, .one ascii, rfl⟩
      split at read
      · next leads =>
          split at read
          · obtain ⟨follows, size⟩ := taken read
            exact ⟨[first, _], _, rfl, .two leads follows, size.symm⟩
          · cases read
      split at read
      · next leads =>
          split at read
          · obtain ⟨inside, size⟩ := taken read
            rw [Bool.and_eq_true] at inside
            exact ⟨[first, _, _], _, rfl, .three leads inside.1 inside.2, size.symm⟩
          · cases read
      split at read
      · next leads =>
          split at read
          · obtain ⟨inside, size⟩ := taken read
            rw [Bool.and_eq_true, Bool.and_eq_true] at inside
            exact ⟨[first, _, _, _], _, rfl, .four leads inside.1.1 inside.1.2 inside.2, size.symm⟩
          · cases read
      · cases read

/-- Two runes with which a text begins are one. -/
theorem Rune.unique {left right : GoString} (first : Rune left) (second : Rune right) {rest more : GoString}
    (same : left ++ rest = right ++ more) : left = right ∧ rest = more := by
  have sizes : left.length = right.length := by
    rw [← first.length rest, ← second.length more, same]
  exact List.append_inj same sizes

/-- No rune begins with another. -/
theorem Rune.whole {rune front behind : GoString} (bytes : Rune rune) (split : rune = front ++ behind)
    (some_ : front ≠ []) (runes : Runes front) : behind = [] := by
  cases runes with
  | nil => exact absurd rfl some_
  | @cons first rest leads more =>
      have once : first ++ (rest ++ behind) = rune ++ [] := by
        rw [List.append_nil, split, List.append_assoc]
      have none_ := (leads.unique bytes once).2
      exact (List.append_eq_nil_iff.mp none_).2

/-! ## Cuts -/

/-- Where a text of runes is cut, the front consists of runes exactly if no
rune is torn. -/
theorem runes_cut {front behind : GoString} (runes : Runes (front ++ behind)) :
    Runes front ↔ ∀ c ∈ behind.head?, continuation c = false := by
  generalize whole : front ++ behind = value at runes
  induction runes generalizing front with
  | nil =>
      obtain ⟨rfl, rfl⟩ := List.append_eq_nil_iff.mp whole
      simp [Runes.nil]
  | @cons rune rest first more ih =>
      cases front with
      | nil =>
          refine ⟨fun _ c leads => ?_, fun _ => .nil⟩
          obtain ⟨lead, tail, rfl, plain, _⟩ := first.shape
          rw [List.nil_append] at whole
          rw [whole] at leads
          cases leads
          exact plain
      | cons head front =>
          rcases List.append_eq_append_iff.mp whole with ⟨torn, runeIs, behindIs⟩ | ⟨later, frontIs, restIs⟩
          · by_cases end_ : torn = []
            · subst end_
              rw [List.append_nil] at runeIs
              rw [List.nil_append] at behindIs
              have alone := @ih [] (by rw [List.nil_append, behindIs])
              refine ⟨fun _ => alone.mp .nil, fun _ => ?_⟩
              rw [← runeIs, ← List.append_nil rune]
              exact .cons first .nil
            · constructor
              · intro runes
                exact absurd (first.whole runeIs (by simp) runes) end_
              · intro plain
                obtain ⟨lead, tail, runeIs', _, follows⟩ := first.shape
                obtain ⟨c, others, rfl⟩ := List.exists_cons_of_ne_nil end_
                have inTail : c ∈ tail := by
                  rw [runeIs', List.cons_append] at runeIs
                  rw [(List.cons.inj runeIs).2]
                  simp
                have torn := follows c inTail
                rw [plain c (by rw [behindIs]; rfl)] at torn
                cases torn
          · have inner := @ih later restIs.symm
            rw [frontIs, ← inner]
            constructor
            · intro runes
              generalize both : rune ++ later = value at runes
              cases runes with
              | nil => exact absurd (List.append_eq_nil_iff.mp both).1 first.nonempty
              | cons other more =>
                  rw [(first.unique other both).2]
                  exact more
            · exact .cons first

private theorem runes_back {front behind : GoString} (runes : Runes (front ++ behind)) (former : Runes front) :
    Runes behind := by
  induction former with
  | nil => exact runes
  | @cons rune rest first more ih =>
      rw [List.append_assoc] at runes
      apply ih
      generalize both : rune ++ (rest ++ behind) = value at runes
      cases runes with
      | nil => exact absurd (List.append_eq_nil_iff.mp both).1 first.nonempty
      | cons other more =>
          rw [(first.unique other both).2]
          exact more

/-! ## What can be run -/

private theorem validWithin_iff {bound : Nat} {value : GoString} (enough : value.length ≤ bound) :
    validWithin bound value = true ↔ Runes value := by
  induction bound generalizing value with
  | zero =>
      have empty : value = [] := List.eq_nil_of_length_eq_zero (by omega)
      subst empty
      exact ⟨fun _ => .nil, fun _ => rfl⟩
  | succ bound ih =>
      unfold validWithin
      cases value with
      | nil => exact ⟨fun _ => .nil, fun _ => rfl⟩
      | cons head tail =>
          simp only [List.isEmpty_cons, Bool.false_or]
          split
          · next broken =>
              refine ⟨fun none_ => absurd none_ Bool.false_ne_true, fun runes => ?_⟩
              generalize same : head :: tail = value at broken runes
              cases runes with
              | nil => cases same
              | cons first _ =>
                  rw [first.length] at broken
                  exact absurd (List.eq_nil_of_length_eq_zero broken) first.nonempty
          · next more read =>
              obtain ⟨rune, rest, split, first, size⟩ := rune_first read
              have dropped : (head :: tail).drop (more + 1) = rest := by
                rw [split, ← size, List.drop_left]
              have lengths := congrArg List.length split
              rw [List.length_append, size] at lengths
              rw [dropped, ih (by omega), split]
              refine ⟨.cons first, fun runes => ?_⟩
              exact runes_back runes (by rw [← List.append_nil rune]; exact .cons first .nil)

theorem valid_iff (value : GoString) : valid value = true ↔ Runes value := validWithin_iff (Nat.le_refl _)

/-! ## Repairs -/

private theorem repairWithin_runes {value : GoString} (runes : Runes value) {bound : Nat}
    (enough : value.length ≤ bound) : repairWithin bound value = value := by
  induction runes generalizing bound with
  | nil => cases bound <;> rfl
  | @cons rune rest first more ih =>
      obtain ⟨lead, tail, rfl, _, _⟩ := first.shape
      cases bound with
      | zero => simp at enough
      | succ bound =>
          have read := first.length rest
          rw [List.cons_append, List.length_cons] at read
          rw [List.length_append, List.length_cons] at enough
          rw [List.cons_append, repairWithin, read]
          simp only [List.take_left, List.drop_left]
          rw [ih (by omega)]

private theorem repairWithin_valid {bound : Nat} {value : GoString} (enough : value.length ≤ bound) :
    Runes (repairWithin bound value) := by
  induction bound generalizing value with
  | zero => exact .nil
  | succ bound ih =>
      cases value with
      | nil => exact .nil
      | cons head tail =>
          rw [List.length_cons] at enough
          unfold repairWithin
          split
          · exact .cons (.three (by decide) (by decide) (by decide)) (ih (by omega))
          · next more read =>
              obtain ⟨rune, rest, split, first, size⟩ := rune_first read
              have lengths := congrArg List.length split
              rw [List.length_append, List.length_cons, size] at lengths
              obtain ⟨lead, others, rfl, _, _⟩ := first.shape
              rw [List.cons_append] at split
              obtain ⟨rfl, rfl⟩ := List.cons.inj split
              have count : others.length = more := by simpa using size
              rw [← count, List.take_left, List.drop_left, ← List.cons_append]
              exact .cons first (ih (by omega))

/-- Only texts that are UTF-8 are written and read back as they are. -/
theorem repair_iff (value : GoString) : repair value = value ↔ valid value = true := by
  rw [valid_iff]
  constructor
  · intro same
    rw [← same]
    exact repairWithin_valid (Nat.le_refl _)
  · intro runes
    exact repairWithin_runes runes (Nat.le_refl _)

/-! ## Spaces -/

private theorem space_rune : ∀ space ∈ spaces, runeLength space = space.length := by
  have every : spaces.all (fun space => runeLength space = space.length) = true := by decide
  simpa using every

private theorem space_runes {space : GoString} (listed : space ∈ spaces) : Rune space := by
  have some_ := (spaces_hidden space listed).1
  obtain ⟨c, rest, rfl⟩ := List.exists_cons_of_ne_nil some_
  have read := space_rune _ listed
  rw [List.length_cons] at read
  obtain ⟨rune, behind, split, bytes, size⟩ := rune_first read
  have none_ : behind = [] := by
    have lengths := congrArg List.length split
    rw [List.length_append, List.length_cons, size] at lengths
    exact List.eq_nil_of_length_eq_zero (by omega)
  rw [split, none_, List.append_nil]
  exact bytes

private theorem trimLeft_runes {bound : Nat} {value : GoString} (runes : Runes value) :
    Runes (trimLeft bound value) := by
  induction bound generalizing value with
  | zero => exact runes
  | succ bound ih =>
      unfold trimLeft
      split
      · next space found =>
          have listed := List.mem_of_find?_eq_some found
          have leads := List.find?_some found
          obtain ⟨rest, rfl⟩ := List.isPrefixOf_iff_prefix.mp leads
          rw [List.drop_left]
          apply ih
          exact runes_back runes (by rw [← List.append_nil space]; exact .cons (space_runes listed) .nil)
      · exact runes

private theorem trimRight_runes {bound : Nat} {value : GoString} (runes : Runes value) :
    Runes (trimRight bound value) := by
  induction bound generalizing value with
  | zero => exact runes
  | succ bound ih =>
      unfold trimRight
      split
      · next space found =>
          have listed := List.mem_of_find?_eq_some found
          have ends := List.find?_some found
          obtain ⟨front, rfl⟩ := List.isSuffixOf_iff_suffix.mp ends
          have kept : (front ++ space).take ((front ++ space).length - space.length) = front := by
            rw [List.length_append, Nat.add_sub_cancel, List.take_left]
          rw [kept]
          apply ih
          apply (runes_cut runes).mpr
          intro c leads
          obtain ⟨lead, tail, rfl, plain, _⟩ := (space_runes listed).shape
          cases leads
          exact plain
      · exact runes

theorem trimSpace_valid {value : GoString} (written : valid value = true) : valid (trimSpace value) = true := by
  rw [valid_iff] at written ⊢
  exact trimRight_runes (trimLeft_runes written)

end NodeAtlas.UTF8
