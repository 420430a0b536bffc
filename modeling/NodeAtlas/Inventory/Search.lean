import NodeAtlas.Runtime
import Mathlib.Data.Char
import Mathlib.Data.List.Infix
import Mathlib.Data.List.Lex
import Mathlib.Data.List.TakeWhile

/-! The search for servers by name. Texts are sequences of characters here, as
both databases and `strings.ToLower` read them. -/

set_option autoImplicit false

namespace NodeAtlas.Inventory.Search

abbrev Text : Type := List Char

/-! ## Patterns -/

/-- What the pattern of a LIKE is made of. -/
inductive Token where
  | any
  | one
  | literal (character : Char)
  deriving DecidableEq, Repr

/-- `escapes` is whether a backslash escapes the character behind it. -/
def tokens (escapes : Bool) : Text → List Token
  | [] => []
  | [last] => if last = '%' then [.any] else if last = '_' then [.one] else [.literal last]
  | first :: next :: rest =>
      if escapes ∧ first = '\\' then .literal next :: tokens escapes rest
      else if first = '%' then .any :: tokens escapes (next :: rest)
      else if first = '_' then .one :: tokens escapes (next :: rest)
      else .literal first :: tokens escapes (next :: rest)

/-- `same` is how LIKE compares two characters. -/
def like (same : Char → Char → Bool) : List Token → Text → Bool
  | [], value => value.isEmpty
  | .any :: rest, value => value.tails.any (like same rest)
  | .one :: rest, value =>
      match value with
      | [] => false
      | _ :: later => like same rest later
  | .literal character :: rest, value =>
      match value with
      | [] => false
      | first :: later => same character first && like same rest later

/-! ## Databases -/

def asciiLower (character : Char) : Char :=
  if 'A' ≤ character ∧ character ≤ 'Z' then Char.ofNat (character.toNat + 32) else character

/-- `unicode.ToLower`, a lower-case letter for every letter. -/
structure Unicode where
  toLower : Char → Char
  isSpace : Char → Bool
  settled : ∀ character, toLower (toLower character) = toLower character
  ascii : ∀ character, asciiLower (toLower character) = toLower character
  agrees : ∀ character, character.toNat < 128 → toLower character = asciiLower character

/-- What the texts of a database are to it: LOWER, the comparison within LIKE,
whether that knows escapes, whether it reads texts only up to a NUL and how many
bytes of a pattern it takes, equality, and the order of ORDER BY. -/
structure Collation where
  lower : Char → Char
  same : Char → Char → Bool
  escapes : Bool
  terminates : Bool
  limit : Option Nat
  equal : Text → Text → Bool
  le : Text → Text → Bool
  same_refl : ∀ character, same character character = true
  equal_refl : ∀ value, equal value value = true
  le_total : ∀ left right, (le left right || le right left) = true
  le_trans : ∀ first second third, le first second = true → le second third = true → le first third = true

/-- LOWER and LIKE fold ASCII, LIKE has texts that end with a NUL and the default
of SQLITE_LIMIT_LIKE_PATTERN_LENGTH, and texts are compared byte by byte. -/
def sqlite : Collation where
  lower := asciiLower
  same left right := asciiLower left = asciiLower right
  escapes := false
  terminates := true
  limit := some 50000
  equal left right := left = right
  le left right := left ≤ right
  same_refl _ := decide_eq_true rfl
  equal_refl _ := decide_eq_true rfl
  le_total left right := by
    simpa using le_total left right
  le_trans first second third := by
    simpa using le_trans

/-! ## The code -/

/-- A server joined with its connection. -/
structure Row where
  id : Text
  connectionID : Text
  providerType : Text
  state : Text
  name : Text
  hiddenAt : Option Instant
  deletedAt : Option Instant
  deriving DecidableEq, Repr

structure Filter where
  connectionID : Text
  providerType : Text
  state : Text
  query : Text
  deriving DecidableEq, Repr

variable (unicode : Unicode) (collation : Collation)

/-- `strings.TrimSpace`, then `strings.ToLower`. -/
def needle (filter : Filter) : Text :=
  ((filter.query.dropWhile unicode.isSpace).reverse.dropWhile unicode.isSpace).reverse.map unicode.toLower

/-- What LIKE reads of a text. -/
def Collation.cut (value : Text) : Text :=
  if collation.terminates then value.takeWhile fun character => character ≠ '\x00' else value

/-- The WHERE clause but for the name. -/
def selectsBut (filter : Filter) (row : Row) : Bool :=
  row.hiddenAt.isNone && row.deletedAt.isNone &&
    (filter.connectionID = [] || collation.equal row.connectionID filter.connectionID) &&
    (filter.providerType = [] || collation.equal row.providerType filter.providerType) &&
    (filter.state = [] || collation.equal row.state filter.state)

/-- The WHERE clause. -/
def selects (filter : Filter) (row : Row) : Bool :=
  selectsBut collation filter row &&
    (needle unicode filter = [] ||
      like collation.same (tokens collation.escapes (collation.cut ('%' :: needle unicode filter ++ ['%'])))
        (collation.cut (row.name.map collation.lower)))

def byteLength (value : Text) : Nat := value.foldr (fun character length => character.utf8Size + length) 0

/-- Whether LIKE takes the pattern. -/
def Collation.takes (pattern : Text) : Bool :=
  collation.limit.all fun limit => decide (byteLength pattern ≤ limit)

inductive Failure where
  | patternTooComplex
  deriving DecidableEq, Repr

/-- ORDER BY name, id -/
def before (left right : Row) : Bool :=
  if collation.le left.name right.name && collation.le right.name left.name then
    collation.le left.id right.id
  else collation.le left.name right.name

/-- LIKE is computed for the rows that the rest of the clause is true of; the
database may also have computed it for others, when it tests the rest later. -/
def list (early : Row → Bool) (filter : Filter) (rows : List Row) : Except Failure (List Row) :=
  if needle unicode filter ≠ [] ∧ collation.takes ('%' :: needle unicode filter ++ ['%']) = false ∧
      (rows.any fun row => selectsBut collation filter row || early row) = true then
    .error .patternTooComplex
  else .ok ((rows.filter (selects unicode collation filter)).mergeSort (before collation))

/-! ## What is asked of it -/

/-- The servers that are to be listed. -/
def wanted (filter : Filter) (row : Row) : Bool :=
  row.hiddenAt.isNone && row.deletedAt.isNone &&
    (filter.connectionID = [] || row.connectionID = filter.connectionID) &&
    (filter.providerType = [] || row.providerType = filter.providerType) &&
    (filter.state = [] || row.state = filter.state) &&
    decide (needle unicode filter <:+: row.name.map unicode.toLower)

def wantedList (filter : Filter) (rows : List Row) : List Row :=
  (rows.filter (wanted unicode filter)).mergeSort (before collation)

/-- Nothing in it means anything to LIKE. -/
def literal (escapes : Bool) (value : Text) : Bool :=
  value.all fun character => character ≠ '%' && character ≠ '_' && !(escapes && character = '\\')

/-- LIKE takes all of a pattern that looks for the text, and takes it literally. -/
def searchable (value : Text) : Bool :=
  literal collation.escapes value && !(collation.terminates && decide ('\x00' ∈ value)) &&
    collation.takes ('%' :: value ++ ['%'])

/-- LOWER is `strings.ToLower` for the name, LIKE reads all of it, and what the
database takes for equal is equal. -/
structure Plain (filter : Filter) (row : Row) : Prop where
  lowered : row.name.map collation.lower = row.name.map unicode.toLower
  whole : collation.terminates = true → '\x00' ∉ row.name.map unicode.toLower
  told : ∀ left ∈ needle unicode filter, ∀ right ∈ row.name.map unicode.toLower,
    collation.same left right = true → left = right
  connection : collation.equal row.connectionID filter.connectionID = true → row.connectionID = filter.connectionID
  provider : collation.equal row.providerType filter.providerType = true → row.providerType = filter.providerType
  state : collation.equal row.state filter.state = true → row.state = filter.state

/-! ## Patterns without wildcards -/

private theorem like_any (same : Char → Char → Bool) (value : Text) : like same [.any] value = true := by
  apply List.any_eq_true.mpr
  exact ⟨[], by simp, rfl⟩

private theorem like_begins {same : Char → Char → Bool} (refl : ∀ character, same character character = true)
    {pattern value : Text} (told : ∀ left ∈ pattern, ∀ right ∈ value, same left right = true → left = right) :
    like same (pattern.map .literal ++ [.any]) value = true ↔ pattern <+: value := by
  induction pattern generalizing value with
  | nil => simp [like_any]
  | cons first rest ih =>
      cases value with
      | nil => simp [like]
      | cons head tail =>
          have later := ih fun left member right other =>
            told left (List.mem_cons_of_mem _ member) right (List.mem_cons_of_mem _ other)
          simp only [List.map_cons, List.cons_append, like, Bool.and_eq_true, later, List.cons_prefix_cons]
          constructor
          · rintro ⟨alike, further⟩
            exact ⟨told first List.mem_cons_self head List.mem_cons_self alike, further⟩
          · rintro ⟨rfl, further⟩
            exact ⟨refl first, further⟩

/-- Between two wildcards a literal text is looked for anywhere. -/
theorem like_infix {same : Char → Char → Bool} (refl : ∀ character, same character character = true)
    {pattern value : Text} (told : ∀ left ∈ pattern, ∀ right ∈ value, same left right = true → left = right) :
    like same (.any :: (pattern.map .literal ++ [.any])) value = true ↔ pattern <:+: value := by
  rw [List.infix_iff_prefix_suffix]
  simp only [like, List.any_eq_true, List.mem_tails]
  constructor
  · rintro ⟨tail, ends, matched⟩
    have within := fun left member right other =>
      told left member right (ends.subset other)
    exact ⟨tail, (like_begins refl within).mp matched, ends⟩
  · rintro ⟨tail, starts, ends⟩
    have within := fun left member right other =>
      told left member right (ends.subset other)
    exact ⟨tail, ends, (like_begins refl within).mpr starts⟩

theorem tokens_literal {escapes : Bool} {value : Text} (plain : literal escapes value = true) :
    tokens escapes (value ++ ['%']) = value.map .literal ++ [.any] := by
  induction value with
  | nil => rfl
  | cons first rest ih =>
      obtain ⟨here, later⟩ := Bool.and_eq_true_iff.mp plain
      simp only [Bool.and_eq_true, decide_eq_true_eq, Bool.not_eq_true', Bool.and_eq_false_iff] at here
      obtain ⟨next, others, same⟩ := List.exists_cons_of_ne_nil (l := rest ++ ['%']) (by simp)
      have further := ih later
      rw [same] at further
      have unescaped : ¬ (escapes = true ∧ first = '\\') := by
        rintro ⟨on, slash⟩
        simp [on, slash] at here
      rw [List.cons_append, same, tokens, if_neg unescaped, if_neg here.1.1, if_neg here.1.2, further,
        List.map_cons, List.cons_append]

private theorem equal_iff {collation : Collation} {left right : Text}
    (told : collation.equal left right = true → left = right) :
    collation.equal left right = decide (left = right) := by
  by_cases same : left = right
  · rw [same, collation.equal_refl]
    simp
  · have different : collation.equal left right = false := by
      apply Bool.eq_false_iff.mpr
      exact fun equal => same (told equal)
    simp [different, same]

/-- LIKE reads all of a text in which nothing ends it. -/
theorem Collation.cut_whole {collation : Collation} {value : Text}
    (whole : collation.terminates = true → '\x00' ∉ value) : collation.cut value = value := by
  unfold cut
  split
  · next terminates =>
    rw [List.takeWhile_eq_self_iff]
    intro character member
    exact decide_eq_true fun same => whole terminates (same ▸ member)
  · rfl

theorem searchable_iff {collation : Collation} {value : Text} :
    searchable collation value = true ↔ literal collation.escapes value = true ∧
      (collation.terminates = true → '\x00' ∉ value) ∧ collation.takes ('%' :: value ++ ['%']) = true := by
  unfold searchable
  cases collation.terminates <;> simp [and_assoc]

/-- Without wildcards the WHERE clause says what is wanted. -/
theorem selects_wanted {unicode : Unicode} {collation : Collation} {filter : Filter} {row : Row}
    (free : searchable collation (needle unicode filter) = true) (plain : Plain unicode collation filter row) :
    selects unicode collation filter row = wanted unicode filter row := by
  obtain ⟨literal_, unended, _⟩ := searchable_iff.mp free
  have matched : (needle unicode filter = [] ∨
      like collation.same (tokens collation.escapes (collation.cut ('%' :: needle unicode filter ++ ['%'])))
        (collation.cut (row.name.map collation.lower)) = true) ↔
      needle unicode filter <:+: row.name.map unicode.toLower := by
    have read : collation.cut ('%' :: needle unicode filter ++ ['%']) = '%' :: needle unicode filter ++ ['%'] :=
      collation.cut_whole fun terminates => by simpa using unended terminates
    have pattern : tokens collation.escapes ('%' :: needle unicode filter ++ ['%']) =
        .any :: ((needle unicode filter).map .literal ++ [.any]) := by
      obtain ⟨next, others, same⟩ := List.exists_cons_of_ne_nil (l := needle unicode filter ++ ['%']) (by simp)
      have further := tokens_literal literal_
      rw [same] at further
      rw [List.cons_append, same, tokens, if_neg (by simp), if_pos rfl, further]
    rw [read, pattern, plain.lowered, collation.cut_whole plain.whole, like_infix collation.same_refl plain.told]
    constructor
    · rintro (empty | found)
      · rw [empty]
        exact List.nil_infix
      · exact found
    · exact .inr
  unfold selects selectsBut wanted
  rw [equal_iff plain.connection, equal_iff plain.provider, equal_iff plain.state]
  congr 1
  rw [Bool.eq_iff_iff, Bool.or_eq_true, decide_eq_true_eq, decide_eq_true_eq]
  exact matched

/-! ## Wildcards -/

/-- What a text with wildcards matches beside itself. -/
def stray : Text → Text
  | [] => []
  | first :: rest => if first = '%' then stray rest else if first = '_' then '.' :: stray rest else first :: stray rest

theorem tokens_cons (first : Char) (rest : Text) :
    tokens false (first :: rest) =
      (if first = '%' then .any else if first = '_' then .one else .literal first) :: tokens false rest := by
  cases rest with
  | nil =>
      simp only [tokens]
      split
      · rfl
      · split <;> rfl
  | cons next others =>
      rw [tokens, if_neg (by simp)]
      split
      · rfl
      · split <;> rfl

/-- What comes behind it may match nothing. -/
private theorem like_stray {same : Char → Char → Bool} (refl : ∀ character, same character character = true)
    {ending : Text} (ends : like same (tokens false ending) [] = true) (value : Text) :
    like same (tokens false (value ++ ending)) (stray value) = true := by
  induction value with
  | nil => exact ends
  | cons first rest ih =>
      rw [List.cons_append, tokens_cons]
      by_cases percent : first = '%'
      · rw [if_pos percent]
        have kept : stray (first :: rest) = stray rest := by simp [stray, percent]
        rw [kept]
        apply List.any_eq_true.mpr
        exact ⟨stray rest, by simp, ih⟩
      · by_cases underscore : first = '_'
        · rw [if_neg percent, if_pos underscore]
          have kept : stray (first :: rest) = '.' :: stray rest := by simp [stray, underscore]
          rw [kept]
          exact ih
        · rw [if_neg percent, if_neg underscore]
          have kept : stray (first :: rest) = first :: stray rest := by simp [stray, percent, underscore]
          rw [kept]
          simp only [like, refl, Bool.true_and]
          exact ih

private theorem stray_length (value : Text) : (stray value).length ≤ value.length := by
  induction value with
  | nil => exact Nat.le_refl _
  | cons first rest ih =>
      unfold stray
      split
      · exact Nat.le_succ_of_le ih
      · split <;> simpa using ih

private theorem stray_clean (value : Text) : ∀ character ∈ stray value,
    (character ∈ value ∨ character = '.') ∧ character ≠ '%' ∧ character ≠ '_' := by
  induction value with
  | nil => simp [stray]
  | cons first rest ih =>
      intro character member
      unfold stray at member
      split at member
      · have inner := ih character member
        exact ⟨inner.1.imp (List.mem_cons_of_mem _) id, inner.2⟩
      · next percent =>
          split at member
          · rcases List.mem_cons.mp member with rfl | later
            · exact ⟨.inr rfl, by decide, by decide⟩
            · have inner := ih character later
              exact ⟨inner.1.imp (List.mem_cons_of_mem _) id, inner.2⟩
          · next underscore =>
              rcases List.mem_cons.mp member with rfl | later
              · exact ⟨.inl List.mem_cons_self, percent, underscore⟩
              · have inner := ih character later
                exact ⟨inner.1.imp (List.mem_cons_of_mem _) id, inner.2⟩

private theorem stray_apart {value : Text} (wild : literal false value = false) : ¬ value <:+: stray value := by
  intro inside
  have same : value = stray value := inside.eq_of_length_le (stray_length value)
  apply Bool.eq_false_iff.mp wild
  apply List.all_eq_true.mpr
  intro character member
  rw [same] at member
  have clean := (stray_clean value character member).2
  simp [clean.1, clean.2]

/-! ## Lists -/

private theorem before_total (collation : Collation) (left right : Row) :
    (before collation left right || before collation right left) = true := by
  have names := collation.le_total left.name right.name
  have ids := collation.le_total left.id right.id
  simp only [before]
  cases forth : collation.le left.name right.name <;> cases back : collation.le right.name left.name <;>
    simp_all

private theorem before_trans (collation : Collation) (first second third : Row)
    (former : before collation first second = true) (latter : before collation second third = true) :
    before collation first third = true := by
  have names := collation.le_trans first.name second.name third.name
  have back := collation.le_trans third.name first.name second.name
  have other := collation.le_trans second.name third.name first.name
  have ids := collation.le_trans first.id second.id third.id
  simp only [before] at *
  grind

/-- The lists come in the order of the names, and of the identifiers where
these are the same. -/
theorem list_ordered {unicode : Unicode} {collation : Collation} {early : Row → Bool} {filter : Filter}
    {rows found : List Row} (listed : list unicode collation early filter rows = .ok found) :
    found.Pairwise fun left right => before collation left right = true := by
  unfold list at listed
  split at listed
  · cases listed
  · cases listed
    exact List.pairwise_mergeSort (before_trans collation) (before_total collation) _

theorem list_wanted {unicode : Unicode} {collation : Collation} {filter : Filter} {rows : List Row}
    (free : searchable collation (needle unicode filter) = true)
    (plain : ∀ row ∈ rows, Plain unicode collation filter row) (early : Row → Bool) :
    list unicode collation early filter rows = .ok (wantedList unicode collation filter rows) := by
  obtain ⟨_, _, taken⟩ := searchable_iff.mp free
  unfold list wantedList
  rw [taken, if_neg (by simp)]
  congr 2
  apply List.filter_congr
  intro row member
  exact selects_wanted free (plain row member)

/-- The row's name is folded alike by LOWER and `strings.ToLower`, and no NUL
ends it. -/
def Ordinary (unicode : Unicode) (row : Row) : Prop :=
  '\x00' ∉ row.name ∧ row.name.map asciiLower = row.name.map unicode.toLower

private theorem asciiLower_cases (character : Char) :
    asciiLower character = character ∨ ∃ index : Fin 26, asciiLower character = Char.ofNat (index.val + 97) := by
  by_cases upper : 'A' ≤ character ∧ character ≤ 'Z'
  · have low : 65 ≤ character.toNat := upper.1
    have high : character.toNat ≤ 90 := upper.2
    refine .inr ⟨⟨character.toNat - 65, by omega⟩, ?_⟩
    unfold asciiLower
    rw [if_pos upper]
    congr 1
    dsimp only
    omega
  · exact .inl (if_neg upper)

private theorem asciiLower_some {character : Char} (some_ : character ≠ '\x00') : asciiLower character ≠ '\x00' := by
  have every : ∀ index : Fin 26, Char.ofNat (index.val + 97) ≠ '\x00' := by
    decide
  rcases asciiLower_cases character with kept | ⟨index, lowered⟩
  · rw [kept]
    exact some_
  · rw [lowered]
    exact every index

private theorem sqlite_plain {unicode : Unicode} {filter : Filter} {row : Row} (ordinary : Ordinary unicode row) :
    Plain unicode sqlite filter row := by
  constructor
  · exact ordinary.2
  · rw [← ordinary.2]
    intro _ member
    obtain ⟨character, among, lowered⟩ := List.mem_map.mp member
    exact asciiLower_some (fun same => ordinary.1 (same ▸ among)) lowered
  · intro left member right other same
    obtain ⟨_, _, rfl⟩ := List.mem_map.mp member
    obtain ⟨_, _, rfl⟩ := List.mem_map.mp other
    have folded := of_decide_eq_true same
    rwa [unicode.ascii, unicode.ascii] at folded
  · exact of_decide_eq_true
  · exact of_decide_eq_true
  · exact of_decide_eq_true

/-- The text that LIKE looks for on SQLite. -/
def sought (unicode : Unicode) (filter : Filter) : Text := sqlite.cut (needle unicode filter)

private theorem mem_sought {unicode : Unicode} {filter : Filter} {character : Char}
    (member : character ∈ sought unicode filter) : character ∈ needle unicode filter ∧ character ≠ '\x00' := by
  have taken : character ∈ (needle unicode filter).takeWhile fun character => character ≠ '\x00' := member
  exact ⟨List.takeWhile_subset _ taken, by simpa using List.mem_takeWhile_imp taken⟩

/-- A server that a search with wildcards, or with a NUL, finds and should not. -/
def strayRow (unicode : Unicode) (filter : Filter) : Row :=
  ⟨[], filter.connectionID, filter.providerType, filter.state, stray (sought unicode filter), none, none⟩

private theorem stray_settled (unicode : Unicode) (filter : Filter) :
    ∀ character ∈ (strayRow unicode filter).name,
      asciiLower character = character ∧ unicode.toLower character = character := by
  intro character member
  rcases (stray_clean _ character member).1 with own | rfl
  · obtain ⟨_, _, rfl⟩ := List.mem_map.mp (mem_sought own).1
    exact ⟨unicode.ascii _, unicode.settled _⟩
  · exact ⟨by decide, unicode.agrees '.' (by decide)⟩

private theorem stray_ordinary (unicode : Unicode) (filter : Filter) : Ordinary unicode (strayRow unicode filter) := by
  constructor
  · intro member
    rcases (stray_clean _ _ member).1 with own | dot
    · exact (mem_sought own).2 rfl
    · cases dot
  · apply List.map_congr_left
    intro character inside
    have settled := stray_settled unicode filter character inside
    rw [settled.1, settled.2]

private theorem map_settled {change : Char → Char} {value : Text}
    (settled : ∀ character ∈ value, change character = character) : value.map change = value := by
  conv => rhs; rw [← List.map_id value]
  exact List.map_congr_left settled

private theorem sought_shorter {unicode : Unicode} {filter : Filter} (ended : '\x00' ∈ needle unicode filter) :
    (sought unicode filter).length < (needle unicode filter).length := by
  have before : sought unicode filter <+: needle unicode filter := List.takeWhile_prefix _
  refine Nat.lt_of_le_of_ne before.length_le fun same => ?_
  rw [← before.eq_of_length same] at ended
  exact (mem_sought ended).2 rfl

/-- The pattern ends where its text does, or with a wildcard. -/
private theorem cut_pattern (unicode : Unicode) (filter : Filter) :
    ∃ ending, sqlite.cut ('%' :: needle unicode filter ++ ['%']) = '%' :: (sought unicode filter ++ ending) ∧
      like sqlite.same (tokens false ending) [] = true := by
  by_cases ended : '\x00' ∈ needle unicode filter
  · refine ⟨[], ?_, rfl⟩
    have shorter := sought_shorter ended
    have stops : sqlite.cut (needle unicode filter ++ ['%']) = sought unicode filter := by
      change (needle unicode filter ++ ['%']).takeWhile _ = (needle unicode filter).takeWhile _
      rw [List.takeWhile_append]
      exact if_neg (Nat.ne_of_lt shorter)
    rw [List.append_nil, ← stops]
    rfl
  · have all : sought unicode filter = needle unicode filter := sqlite.cut_whole fun _ => ended
    refine ⟨['%'], ?_, like_any _ _⟩
    rw [all]
    exact sqlite.cut_whole fun _ => by simpa using ended

private theorem stray_reached (unicode : Unicode) (filter : Filter) :
    selectsBut sqlite filter (strayRow unicode filter) = true := by
  simp [selectsBut, strayRow, sqlite]

private theorem stray_selected (unicode : Unicode) (filter : Filter) :
    selects unicode sqlite filter (strayRow unicode filter) = true := by
  have kept := map_settled fun character member => (stray_settled unicode filter character member).1
  have whole : sqlite.cut (strayRow unicode filter).name = (strayRow unicode filter).name :=
    sqlite.cut_whole fun _ => (stray_ordinary unicode filter).1
  have matched : like sqlite.same (tokens false (sqlite.cut ('%' :: needle unicode filter ++ ['%'])))
      (sqlite.cut ((strayRow unicode filter).name.map asciiLower)) = true := by
    obtain ⟨ending, pattern, ends⟩ := cut_pattern unicode filter
    rw [kept, whole, pattern, tokens_cons, if_pos rfl]
    apply List.any_eq_true.mpr
    exact ⟨stray (sought unicode filter), by simp [strayRow], like_stray sqlite.same_refl ends _⟩
  unfold selects
  rw [stray_reached, Bool.true_and, Bool.or_eq_true]
  exact .inr matched

private theorem stray_unwanted {unicode : Unicode} {filter : Filter}
    (wild : literal false (needle unicode filter) = true → '\x00' ∈ needle unicode filter) :
    wanted unicode filter (strayRow unicode filter) = false := by
  have kept := map_settled fun character member => (stray_settled unicode filter character member).2
  have absent : ¬ needle unicode filter <:+: (strayRow unicode filter).name.map unicode.toLower := by
    rw [kept]
    by_cases ended : '\x00' ∈ needle unicode filter
    · intro inside
      have longer := inside.length_le
      have shorter := sought_shorter ended
      have bound := stray_length (sought unicode filter)
      simp only [strayRow] at longer
      omega
    · have all : sought unicode filter = needle unicode filter := sqlite.cut_whole fun _ => ended
      change ¬ needle unicode filter <:+: stray (sought unicode filter)
      rw [all]
      exact stray_apart (Bool.eq_false_iff.mpr fun free => ended (wild free))
  unfold wanted
  rw [decide_eq_false absent, Bool.and_false]

private theorem asciiLower_settled (character : Char) : asciiLower (asciiLower character) = asciiLower character := by
  have every : ∀ index : Fin 26, asciiLower (Char.ofNat (index.val + 97)) = Char.ofNat (index.val + 97) := by
    decide
  rcases asciiLower_cases character with kept | ⟨index, lowered⟩
  · rw [kept, kept]
  · rw [lowered]
    exact every index

/-- `unicode.ToLower`, as far as ASCII goes. -/
def asciiUnicode : Unicode where
  toLower := asciiLower
  isSpace character := character = ' '
  settled := asciiLower_settled
  ascii := asciiLower_settled
  agrees _ _ := rfl

def webRow : Row := ⟨['1'], ['c'], ['m'], ['r'], ['W', 'e', 'b'], none, none⟩

end NodeAtlas.Inventory.Search
