import NodeAtlas.URL

/-! `ResolveReference` of `net/url`. -/

set_option autoImplicit false

namespace NodeAtlas.URL

/-- The elements of a path put behind each other: what was written so far
without its leading slash, whether nothing was written, and the elements left. -/
def joinElements (written : GoString) (first : Bool) : List GoString → GoString
  | [] => written
  | element :: rest =>
      if element = text "." then joinElements written false rest
      else if element = text ".." then
        match cutLast (byte '/') written with
        | (_, none) => joinElements [] true rest
        | (before, some _) => joinElements before first rest
      else joinElements (written ++ (if first then [] else [byte '/']) ++ element) false rest

/-- `resolvePath`. -/
def resolvePath (base reference : GoString) : GoString :=
  let full :=
    if reference = [] then base
    else if reference.head? ≠ some (byte '/') then
      match cutLast (byte '/') base with
      | (_, none) => reference
      | (before, some _) => before ++ byte '/' :: reference
    else reference
  if full = [] then []
  else
    let elements := full.splitOn (byte '/')
    let last := elements.getLast?.getD []
    let joined := byte '/' :: joinElements [] true elements ++
      (if last = text "." ∨ last = text ".." then [byte '/'] else [])
    if joined.tail.head? = some (byte '/') then joined.tail else joined

/-- `setPath`, whose error leaves the path as it is. -/
def setPath (url : URL) (value : GoString) : URL :=
  match decoded .path value with
  | none => url
  | some (path, rawPath) => { url with path, rawPath }

def resolveReference (base reference : URL) : URL :=
  let url := if reference.scheme = [] then { reference with scheme := base.scheme } else reference
  if reference.scheme ≠ [] ∨ reference.host ≠ [] ∨ reference.user ≠ none then
    url.setPath (resolvePath reference.escapedPath [])
  else if reference.opaque_ ≠ [] then { url with user := none, host := [], path := [] }
  else
    let bare := reference.path = [] ∧ reference.forceQuery = false ∧ reference.rawQuery = []
    let url := if bare then { url with rawQuery := base.rawQuery } else url
    let url :=
      if bare ∧ reference.fragment = [] then
        { url with fragment := base.fragment, rawFragment := base.rawFragment }
      else url
    if reference.path = [] ∧ base.opaque_ ≠ [] then
      { url with opaque_ := base.opaque_, user := none, host := [], path := [] }
    else
      { url with host := base.host, user := base.user }.setPath
        (resolvePath base.escapedPath reference.escapedPath)

/-! ## What a resolved URL has -/

@[simp] theorem setPath_user (url : URL) (value : GoString) : (url.setPath value).user = url.user := by
  unfold setPath
  split <;> rfl

@[simp] theorem setPath_fragment (url : URL) (value : GoString) : (url.setPath value).fragment = url.fragment := by
  unfold setPath
  split <;> rfl

theorem resolveReference_user {base reference : URL} (baseBare : base.user = none) (bare : reference.user = none) :
    (resolveReference base reference).user = none := by
  unfold resolveReference
  dsimp only
  split
  · rw [setPath_user]
    split
    · exact bare
    · exact bare
  · split
    · rfl
    · split
      · rfl
      · rw [setPath_user, baseBare]

theorem resolveReference_fragment {base reference : URL} (baseBare : base.fragment = [])
    (bare : reference.fragment = []) : (resolveReference base reference).fragment = [] := by
  unfold resolveReference
  dsimp only
  split
  · rw [setPath_fragment]
    split
    · exact bare
    · exact bare
  · split
    · split
      · exact bare
      · exact bare
    · -- The fragment is the one of either, whatever the query is.
      split_ifs
      all_goals
        try rw [setPath_fragment]
        first
        | exact baseBare
        | exact bare

end NodeAtlas.URL
