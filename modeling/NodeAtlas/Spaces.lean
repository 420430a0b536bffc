import NodeAtlas.URL

/-! Which texts `strings.TrimSpace` leaves nothing of. -/

set_option autoImplicit false

namespace NodeAtlas

/-- No space begins or ends with a byte that can be seen. -/
theorem spaces_hidden : ∀ space ∈ spaces, space ≠ [] ∧
    ∀ c ∈ space, c ≤ 0x20 ∨ 0x80 ≤ c := by
  have every : spaces.all (fun space =>
      space ≠ [] && space.all fun c => c ≤ 0x20 || 0x80 ≤ c) = true := by
    decide
  simpa using every

private theorem space_length {space : GoString} (listed : space ∈ spaces) : 1 ≤ space.length :=
  List.length_pos_iff.mpr (spaces_hidden space listed).1

private theorem trimLeft_done {bound : Nat} {value : GoString} (enough : value.length ≤ bound) :
    (spaces.find? fun space => space.isPrefixOf (trimLeft bound value)) = none := by
  induction bound generalizing value with
  | zero =>
      have empty : value = [] := List.eq_nil_of_length_eq_zero (by omega)
      subst empty
      decide
  | succ bound ih =>
      unfold trimLeft
      split
      · next space found =>
          have longer := space_length (List.mem_of_find?_eq_some found)
          apply ih
          rw [List.length_drop]
          omega
      · next none_ => exact none_

private theorem trimRight_done {bound : Nat} {value : GoString} (enough : value.length ≤ bound) :
    (spaces.find? fun space => space.isSuffixOf (trimRight bound value)) = none := by
  induction bound generalizing value with
  | zero =>
      have empty : value = [] := List.eq_nil_of_length_eq_zero (by omega)
      subst empty
      decide
  | succ bound ih =>
      unfold trimRight
      split
      · next space found =>
          have longer := space_length (List.mem_of_find?_eq_some found)
          apply ih
          rw [List.length_take]
          omega
      · next none_ => exact none_

private theorem trimRight_front (bound : Nat) (value : GoString) : trimRight bound value <+: value := by
  induction bound generalizing value with
  | zero => exact List.prefix_rfl
  | succ bound ih =>
      unfold trimRight
      split
      · next space _ => exact (ih _).trans (List.take_prefix _ _)
      · exact List.prefix_rfl

private theorem trimLeft_kept {bound : Nat} {value : GoString}
    (none_ : (spaces.find? fun space => space.isPrefixOf value) = none) : trimLeft bound value = value := by
  cases bound with
  | zero => rfl
  | succ bound => simp only [trimLeft, none_]

private theorem trimRight_kept {bound : Nat} {value : GoString}
    (none_ : (spaces.find? fun space => space.isSuffixOf value) = none) : trimRight bound value = value := by
  cases bound with
  | zero => rfl
  | succ bound => simp only [trimRight, none_]

/-- What is trimmed has no spaces left to trim. -/
@[simp] theorem trimSpace_trimSpace (value : GoString) : trimSpace (trimSpace value) = trimSpace value := by
  have started := trimLeft_done (Nat.le_refl value.length)
  have ended := trimRight_done (Nat.le_refl (trimLeft value.length value).length)
  have front := trimRight_front (trimLeft value.length value).length (trimLeft value.length value)
  have shorter : (spaces.find? fun space => space.isPrefixOf (trimSpace value)) = none := by
    rw [List.find?_eq_none] at started ⊢
    intro space listed begins
    apply started space listed
    rw [List.isPrefixOf_iff_prefix] at begins ⊢
    exact begins.trans front
  have left : trimLeft (trimSpace value).length (trimSpace value) = trimSpace value := trimLeft_kept shorter
  have again : trimSpace (trimSpace value) =
      trimRight (trimLeft (trimSpace value).length (trimSpace value)).length
        (trimLeft (trimSpace value).length (trimSpace value)) := rfl
  rw [again, left]
  exact trimRight_kept ended

/-- A text of bytes that can be seen is left as it is. -/
theorem trimSpace_plain {value : GoString} (plain : ∀ c ∈ value, 0x20 < c ∧ c < 0x80) : trimSpace value = value := by
  have hidden : ∀ space ∈ spaces, ∃ first rest, space = first :: rest ∧ first ∉ value := by
    intro space listed
    obtain ⟨some_, outside⟩ := spaces_hidden space listed
    cases space with
    | nil => exact absurd rfl some_
    | cons first rest =>
        refine ⟨first, rest, rfl, fun member => ?_⟩
        have inside := plain first member
        rcases outside first List.mem_cons_self with low | high
        · exact absurd inside.1 (UInt8.not_lt.mpr low)
        · exact absurd inside.2 (UInt8.not_lt.mpr high)
  have begins : (spaces.find? fun space => space.isPrefixOf value) = none := by
    rw [List.find?_eq_none]
    intro space listed starts
    obtain ⟨first, rest, rfl, absent⟩ := hidden space listed
    exact absent ((List.isPrefixOf_iff_prefix.mp starts).subset List.mem_cons_self)
  have ends : (spaces.find? fun space => space.isSuffixOf value) = none := by
    rw [List.find?_eq_none]
    intro space listed stops
    obtain ⟨first, rest, rfl, absent⟩ := hidden space listed
    exact absent ((List.isSuffixOf_iff_suffix.mp stops).subset List.mem_cons_self)
  unfold trimSpace
  rw [trimLeft_kept begins, trimRight_kept ends]

/-- A text that begins with a byte that can be seen is not blank. -/
theorem trimSpace_visible {first : UInt8} (rest : GoString) (visible : 0x20 < first) (ascii : first < 0x80) :
    trimSpace (first :: rest) ≠ [] := by
  have other : ∀ space ∈ spaces, first ∉ space := by
    intro space listed member
    rcases (spaces_hidden space listed).2 first member with low | high
    · exact absurd visible (UInt8.not_lt.mpr low)
    · exact absurd ascii (UInt8.not_lt.mpr high)
  have begins : (spaces.find? fun space => space.isPrefixOf (first :: rest)) = none := by
    rw [List.find?_eq_none]
    intro space listed starts
    rw [List.isPrefixOf_iff_prefix] at starts
    cases space with
    | nil => exact (spaces_hidden [] listed).1 rfl
    | cons head tail =>
        obtain ⟨rfl, _⟩ := List.cons_prefix_cons.mp starts
        exact other _ listed List.mem_cons_self
  have kept : ∀ (bound : Nat) (tail : GoString), trimRight bound (first :: tail) ≠ [] := by
    intro bound
    induction bound with
    | zero =>
        intro tail empty
        cases empty
    | succ bound ih =>
        intro tail
        unfold trimRight
        split
        · next space found =>
            have listed := List.mem_of_find?_eq_some found
            have ends := List.find?_some found
            rw [List.isSuffixOf_iff_suffix] at ends
            have shorter : space.length ≤ tail.length := by
              have atMost := ends.length_le
              rw [List.length_cons] at atMost
              by_contra longer
              have whole := ends.eq_of_length (by rw [List.length_cons]; omega)
              exact other space listed (whole ▸ List.mem_cons_self)
            obtain ⟨count, size⟩ : ∃ count, (first :: tail).length - space.length = count + 1 :=
              ⟨tail.length - space.length, by rw [List.length_cons]; omega⟩
            rw [size, List.take_succ_cons]
            exact ih _
        · intro empty
          cases empty
  unfold trimSpace
  rw [trimLeft_kept begins]
  exact kept _ rest

end NodeAtlas
