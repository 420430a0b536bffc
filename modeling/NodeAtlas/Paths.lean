import NodeAtlas.URL
import Mathlib.Data.List.TakeWhile

/-! Slash-separated paths, as `path` and `path/filepath` treat them. -/

set_option autoImplicit false

namespace NodeAtlas.Path

def slash : UInt8 := byte '/'

def rooted (path : GoString) : Bool := path.head? = some slash

/-- The next element of a path: `..` takes one back, where there is one. -/
def walk (rooted : Bool) (out : List GoString) (part : GoString) : List GoString :=
  if part = [] ∨ part = text "." then out
  else if part = text ".." then
    match out.getLast? with
    | some last => if last = text ".." then out ++ [part] else out.dropLast
    | none => if rooted then out else [part]
  else out ++ [part]

/-- What is left of the elements of a path when it is cleaned. -/
def elements (path : GoString) : List GoString := (path.splitOn slash).foldl (walk (rooted path)) []

def render (rooted : Bool) (parts : List GoString) : GoString :=
  let cleaned := (if rooted then [slash] else []) ++ List.intercalate [slash] parts
  if cleaned = [] then text "." else cleaned

/-- `Clean` -/
def clean (path : GoString) : GoString := render (rooted path) (elements path)

/-- `Join`, of two parts. -/
def join (first second : GoString) : GoString :=
  if first ≠ [] then clean (first ++ slash :: second) else if second ≠ [] then clean second else []

/-- `Dir` -/
def dir (path : GoString) : GoString := clean (path.reverse.dropWhile fun c => c ≠ slash).reverse

/-- `Base` -/
def base (path : GoString) : GoString :=
  if path = [] then text "."
  else
    let last := ((path.reverse.dropWhile fun c => c = slash).takeWhile fun c => c ≠ slash).reverse
    if last = [] then [slash] else last

/-- `strings.TrimPrefix` of a slash. -/
def trimSlash (path : GoString) : GoString := if rooted path then path.tail else path

/-! ## Elements -/

/-- Elements of a clean path: those that lead upwards come first, and there are
none behind a root. -/
structure Proper (rooted : Bool) (parts : List GoString) : Prop where
  named : ∀ part ∈ parts, part ≠ [] ∧ part ≠ text "." ∧ slash ∉ part
  upwards : parts.Pairwise fun earlier later => later = text ".." → earlier = text ".."
  inside : rooted = true → text ".." ∉ parts

namespace Proper

variable {root : Bool} {parts : List GoString}

theorem nil : Proper root [] := ⟨nofun, List.Pairwise.nil, fun _ => nofun⟩

theorem part {less : List GoString} (proper : Proper root parts) (sublist : less.Sublist parts) : Proper root less :=
  ⟨fun part member => proper.named part (sublist.subset member), proper.upwards.sublist sublist,
    fun root member => proper.inside root (sublist.subset member)⟩

theorem snoc {last : GoString} (proper : Proper root parts) (named : last ≠ [] ∧ last ≠ text "." ∧ slash ∉ last)
    (upwards : last = text ".." → root = false ∧ ∀ earlier ∈ parts, earlier = text "..") :
    Proper root (parts ++ [last]) := by
  refine ⟨?_, ?_, ?_⟩
  · intro part member
    rcases List.mem_append.mp member with before | ends
    · exact proper.named part before
    · rwa [List.mem_singleton.mp ends]
  · rw [List.pairwise_append]
    refine ⟨proper.upwards, List.pairwise_singleton _ _, ?_⟩
    intro earlier member later ends up
    rw [List.mem_singleton.mp ends] at up
    exact (upwards up).2 earlier member
  · intro root member
    rcases List.mem_append.mp member with before | ends
    · exact proper.inside root before
    · have above := (upwards (List.mem_singleton.mp ends).symm).1
      rw [root] at above
      cases above

/-- Only what leads upwards stands before what does. -/
theorem above {last : GoString} (proper : Proper root (parts ++ [last])) (up : last = text "..") :
    root = false ∧ ∀ earlier ∈ parts, earlier = text ".." := by
  constructor
  · by_contra rooted
    rw [Bool.not_eq_false] at rooted
    exact proper.inside rooted (by simp [up])
  · intro earlier member
    exact (List.pairwise_append.mp proper.upwards).2.2 earlier member last (List.mem_singleton_self _) up

theorem walk {next : GoString} (proper : Proper root parts) (clean : slash ∉ next) :
    Proper root (walk root parts next) := by
  unfold Path.walk
  split
  · exact proper
  · next named =>
    rw [not_or] at named
    split
    · next up =>
      split
      · next last ends =>
        obtain ⟨front, rfl⟩ := List.getLast?_eq_some_iff.mp ends
        split
        · next climbing =>
          obtain ⟨unrooted, above⟩ := proper.above climbing
          refine proper.snoc ⟨named.1, named.2, clean⟩ fun _ => ⟨unrooted, ?_⟩
          intro earlier member
          rcases List.mem_append.mp member with before | here
          · exact above earlier before
          · exact (List.mem_singleton.mp here).trans climbing
        · exact proper.part (List.dropLast_sublist _)
      · next empty =>
        split
        · exact proper
        · next unrooted =>
          refine nil.snoc ⟨named.1, named.2, clean⟩ fun _ => ⟨?_, nofun⟩
          simpa using unrooted
    · next level =>
      exact proper.snoc ⟨named.1, named.2, clean⟩ fun up => absurd up level

theorem walk_eq {next : GoString} (proper : Proper root (parts ++ [next])) :
    Path.walk root parts next = parts ++ [next] := by
  obtain ⟨some_, moves, _⟩ := proper.named next (by simp)
  unfold Path.walk
  rw [if_neg (not_or.mpr ⟨some_, moves⟩)]
  split
  · next up =>
    obtain ⟨unrooted, above⟩ := proper.above up
    split
    · next last ends =>
      rw [if_pos (above last (List.mem_of_getLast? ends))]
    · next empty =>
      rw [List.getLast?_eq_none_iff.mp empty, unrooted]
      rfl
  · rfl

theorem foldl_walk {out : List GoString} (proper : Proper root (out ++ parts)) :
    parts.foldl (Path.walk root) out = out ++ parts := by
  induction parts generalizing out with
  | nil => simp
  | cons part rest ih =>
      rw [List.append_cons] at proper
      have first : Proper root (out ++ [part]) := proper.part (List.sublist_append_left _ _)
      rw [List.foldl_cons, first.walk_eq, ih proper, List.append_assoc]
      rfl

end Proper

theorem mem_splitOn {path part : GoString} (member : part ∈ path.splitOn slash) : slash ∉ part := by
  induction path generalizing part with
  | nil =>
      rw [List.splitOn_nil, List.mem_singleton] at member
      rw [member]
      exact nofun
  | cons first rest ih =>
      rw [List.splitOn_cons_eq_if_modifyHead] at member
      split at member
      · rcases List.mem_cons.mp member with rfl | later
        · exact nofun
        · exact ih later
      · next other =>
        cases parts : rest.splitOn slash with
        | nil => exact absurd parts (List.splitOn_ne_nil _ _)
        | cons head tail =>
            rw [parts, List.modifyHead_cons] at member
            rcases List.mem_cons.mp member with rfl | later
            · rw [List.mem_cons, not_or]
              exact ⟨fun same => other (beq_iff_eq.mpr same.symm), ih (parts ▸ List.mem_cons_self)⟩
            · exact ih (parts ▸ List.mem_cons_of_mem _ later)

theorem elements_proper (path : GoString) : Proper (rooted path) (elements path) := by
  have all : ∀ (parts out : List GoString), (∀ part ∈ parts, slash ∉ part) → Proper (rooted path) out →
      Proper (rooted path) (parts.foldl (walk (rooted path)) out) := by
    intro parts
    induction parts with
    | nil => exact fun _ _ proper => proper
    | cons part rest ih =>
        intro out unslashed proper
        rw [List.forall_mem_cons] at unslashed
        exact ih _ unslashed.2 (proper.walk unslashed.1)
  exact all _ [] (fun _ => mem_splitOn) .nil

/-! ## Clean paths -/

/-- Elements that are written down are read again. -/
theorem render_read {root : Bool} {parts : List GoString} (proper : Proper root parts) :
    rooted (render root parts) = root ∧ elements (render root parts) = parts := by
  have split_ : parts ≠ [] → (List.intercalate [slash] parts).splitOn slash = parts := fun some_ =>
    List.splitOn_intercalate slash (fun part member => (proper.named part member).2.2) some_
  have walked : parts.foldl (walk root) [] = parts := Proper.foldl_walk proper
  cases root with
  | true =>
      have written : render true parts = slash :: List.intercalate [slash] parts := rfl
      have first : ([] : List GoString) = walk true [] [] := rfl
      rw [written]
      refine ⟨rfl, ?_⟩
      unfold elements
      rw [List.splitOn_cons_eq_if_modifyHead, if_pos (beq_self_eq_true slash), List.foldl_cons]
      change ((List.intercalate [slash] parts).splitOn slash).foldl (walk true) [] = parts
      cases parts with
      | nil => rfl
      | cons part rest => rw [split_ (List.cons_ne_nil _ _), walked]
  | false =>
      cases parts with
      | nil => exact ⟨rfl, rfl⟩
      | cons part rest =>
          obtain ⟨some_, _, unslashed⟩ := proper.named part List.mem_cons_self
          obtain ⟨first, others, rfl⟩ := List.exists_cons_of_ne_nil some_
          obtain ⟨tail, written⟩ : ∃ tail, List.intercalate [slash] ((first :: others) :: rest) = first :: tail := by
            cases rest with
            | nil => exact ⟨_, rfl⟩
            | cons next more => exact ⟨_, rfl⟩
          have whole : render false ((first :: others) :: rest) = List.intercalate [slash] ((first :: others) :: rest) := by
            unfold render
            simp [written]
          have flat : rooted (first :: tail) = false := by
            have apart : first ≠ slash := fun same => unslashed (same ▸ List.mem_cons_self)
            simp [rooted, apart]
          rw [whole]
          unfold elements
          rw [split_ (List.cons_ne_nil _ _), written, flat, walked]
          exact ⟨rfl, rfl⟩

theorem clean_some (path : GoString) : clean path ≠ [] := by
  have some_ : ∀ cleaned : GoString, (if cleaned = [] then text "." else cleaned) ≠ [] := by
    intro cleaned
    split
    · decide
    · next some_ => exact some_
  exact some_ _

theorem join_some {first second : GoString} (some_ : first ≠ [] ∨ second ≠ []) : join first second ≠ [] := by
  unfold join
  split
  · exact clean_some _
  · next empty =>
    rw [if_pos (some_.resolve_left empty)]
    exact clean_some _

/-! ## Files in a directory -/

/-- A name that a directory can have an entry of. -/
structure Ordinary (name : GoString) : Prop where
  some_ : name ≠ []
  stays : name ≠ text "."
  below : name ≠ text ".."
  flat : slash ∉ name

section Entries

variable {directory name : GoString}

theorem Ordinary.proper (ordinary : Ordinary name) (directory : GoString) :
    Proper (rooted directory) (elements directory ++ [name]) :=
  (elements_proper directory).snoc ⟨ordinary.some_, ordinary.stays, ordinary.flat⟩ fun up => absurd up ordinary.below

/-- The path of a file in a directory is the directory with one element more. -/
theorem join_elements (some_ : directory ≠ []) (ordinary : Ordinary name) :
    join directory name = render (rooted directory) (elements directory ++ [name]) := by
  obtain ⟨first, rest, rfl⟩ := List.exists_cons_of_ne_nil some_
  have same : rooted (first :: rest ++ slash :: name) = rooted (first :: rest) := rfl
  have more : elements (first :: rest ++ slash :: name) = elements (first :: rest) ++ [name] := by
    unfold elements
    rw [same, List.splitOn_append_cons_self, List.splitOn_eq_singleton ordinary.flat, List.foldl_append]
    exact (ordinary.proper (first :: rest)).walk_eq
  rw [join, if_pos some_, clean, same, more]

theorem clean_trailing {path : GoString} (some_ : path ≠ []) : clean (path ++ [slash]) = clean path := by
  obtain ⟨first, rest, rfl⟩ := List.exists_cons_of_ne_nil some_
  have same : rooted (first :: rest ++ [slash]) = rooted (first :: rest) := rfl
  have more : elements (first :: rest ++ [slash]) = elements (first :: rest) := by
    unfold elements
    rw [same, List.splitOn_append_cons_self, List.splitOn_nil, List.foldl_append]
    rfl
  rw [clean, same, more, clean]

theorem intercalate_snoc {parts : List GoString} (some_ : parts ≠ []) (name : GoString) :
    List.intercalate [slash] (parts ++ [name]) = List.intercalate [slash] parts ++ slash :: name := by
  induction parts with
  | nil => exact absurd rfl some_
  | cons part rest ih =>
      cases rest with
      | nil =>
          rw [List.singleton_append, List.intercalate_singleton,
            List.intercalate_cons_of_ne_nil (List.cons_ne_nil _ _), List.intercalate_singleton, List.append_assoc]
          rfl
      | cons next others =>
          rw [List.cons_append, List.intercalate_cons_of_ne_nil (List.append_ne_nil_of_left_ne_nil (List.cons_ne_nil _ _) _),
            ih (List.cons_ne_nil _ _), List.intercalate_cons_of_ne_nil (List.cons_ne_nil _ _)]
          simp only [List.append_assoc]

/-- A path that ends with a name, and what stands before it. -/
theorem render_last {root : Bool} {parts : List GoString} (proper : Proper root parts) (name : GoString)
    (some_ : name ≠ []) :
    ∃ front, render root (parts ++ [name]) = front ++ name ∧ (front = [] ∨ ∃ before, front = before ++ [slash]) ∧
      clean front = render root parts := by
  have plain : ∀ (root : Bool) (parts : List GoString), (if root then [slash] else []) ++ List.intercalate [slash] parts ≠ [] →
      render root parts = (if root then [slash] else []) ++ List.intercalate [slash] parts := by
    intro root parts written
    unfold render
    exact if_neg written
  cases parts with
  | nil =>
      refine ⟨if root then [slash] else [], ?_, ?_, ?_⟩
      · rw [List.nil_append, plain]
        · rw [List.intercalate_singleton]
        · rw [List.intercalate_singleton]
          exact List.append_ne_nil_of_right_ne_nil _ some_
      · cases root with
        | true => exact .inr ⟨[], rfl⟩
        | false => exact .inl rfl
      · cases root <;> rfl
  | cons part rest =>
      have first : List.intercalate [slash] (part :: rest) ≠ [] := by
        obtain ⟨head, tail, rfl⟩ := List.exists_cons_of_ne_nil (proper.named part List.mem_cons_self).1
        cases rest with
        | nil => exact List.cons_ne_nil _ _
        | cons next others => exact List.cons_ne_nil _ _
      have whole := plain root (part :: rest) (List.append_ne_nil_of_right_ne_nil _ first)
      refine ⟨render root (part :: rest) ++ [slash], ?_, .inr ⟨_, rfl⟩, ?_⟩
      · rw [plain, whole, intercalate_snoc (List.cons_ne_nil _ _)]
        · simp only [List.append_assoc, List.singleton_append]
        · rw [intercalate_snoc (List.cons_ne_nil _ _)]
          exact List.append_ne_nil_of_right_ne_nil _ (List.append_ne_nil_of_left_ne_nil first _)
      · obtain ⟨same, read⟩ := render_read proper
        have written : render root (part :: rest) ≠ [] := by
          rw [whole]
          exact List.append_ne_nil_of_right_ne_nil _ first
        rw [clean_trailing written, clean, same, read]

private theorem unslashed_reverse (flat : slash ∉ name) : ∀ c ∈ name.reverse, (c ≠ slash : Bool) = true := by
  intro c member
  simpa using fun same : c = slash => flat (same ▸ List.mem_reverse.mp member)

private theorem dir_append {front : GoString} (flat : slash ∉ name)
    (ends : front = [] ∨ ∃ before, front = before ++ [slash]) : dir (front ++ name) = clean front := by
  have stops : front.reverse.dropWhile (fun c => c ≠ slash) = front.reverse := by
    rcases ends with rfl | ⟨before, rfl⟩
    · rfl
    · simp
  rw [dir, List.reverse_append, List.dropWhile_append_of_pos (unslashed_reverse flat), stops, List.reverse_reverse]

private theorem base_append {front : GoString} (some_ : name ≠ []) (flat : slash ∉ name)
    (ends : front = [] ∨ ∃ before, front = before ++ [slash]) : base (front ++ name) = name := by
  obtain ⟨last, more, reversed⟩ : ∃ last more, name.reverse = last :: more :=
    List.exists_cons_of_ne_nil (by simpa using some_)
  have apart : last ≠ slash := by simpa using unslashed_reverse flat last (reversed ▸ List.mem_cons_self)
  have stays : (name.reverse ++ front.reverse).dropWhile (fun c => c = slash) = name.reverse ++ front.reverse := by
    simp [reversed, apart]
  have taken : front.reverse.takeWhile (fun c => c ≠ slash) = [] := by
    rcases ends with rfl | ⟨before, rfl⟩
    · rfl
    · simp
  have whole : front ++ name ≠ [] := List.append_ne_nil_of_right_ne_nil _ some_
  unfold base
  rw [if_neg whole, List.reverse_append, stays, List.takeWhile_append_of_pos (unslashed_reverse flat), taken,
    List.append_nil, List.reverse_reverse]
  exact if_neg some_

/-- The name of a file in a directory leads nowhere else. -/
theorem join_parts (some_ : directory ≠ []) (ordinary : Ordinary name) :
    dir (join directory name) = clean directory ∧ base (join directory name) = name := by
  obtain ⟨front, written, ends, before⟩ := render_last (elements_proper directory) name ordinary.some_
  rw [join_elements some_ ordinary, written]
  refine ⟨?_, base_append ordinary.some_ ordinary.flat ends⟩
  rw [dir_append ordinary.flat ends, before, clean]

/-- Names without a slash, and the root, are their own base. -/
theorem base_eq_iff {name : GoString} : base name = name ↔ name ≠ [] ∧ (name = [slash] ∨ slash ∉ name) := by
  constructor
  · intro same
    have some_ : name ≠ [] := by
      rintro rfl
      cases same
    refine ⟨some_, ?_⟩
    unfold base at same
    rw [if_neg some_] at same
    dsimp only at same
    split at same
    · exact .inl same.symm
    · right
      rw [← same]
      intro member
      simpa using List.mem_takeWhile_imp (List.mem_reverse.mp member)
  · rintro ⟨some_, rfl | flat⟩
    · rfl
    · exact base_append some_ flat (show ([] : GoString) = [] ∨ _ from .inl rfl)

end Entries

end NodeAtlas.Path
