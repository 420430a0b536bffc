import NodeAtlas.Paths
import NodeAtlas.UTF8

/-! The web assets, and what the router makes of paths that are not of the API. -/

set_option autoImplicit false

namespace NodeAtlas.HTTPAPI

/-! ## Assets -/

/-- `fs.ValidPath` -/
def validPath (name : GoString) : Bool :=
  UTF8.valid name && (name = text "." || (name.splitOn Path.slash).all fun part =>
    part ≠ [] && part ≠ text "." && part ≠ text "..")

inductive Entry where
  | file (data : GoString)
  | directory
  deriving DecidableEq, Repr

/-- The embedded files: `Open` finds only valid names, and the root. -/
structure Assets where
  open_ : GoString → Option Entry
  named : ∀ name, (open_ name).isSome = true → validPath name = true
  root : open_ (text ".") = some .directory

inductive Answer where
  | notFound
  | failed
  | redirect (location : GoString)
  | content (data : GoString)
  | listing
  | page (index : GoString)
  deriving DecidableEq, Repr

/-- `path.Ext` -/
def ext (path : GoString) : GoString :=
  let last := path.reverse.takeWhile fun c => c ≠ Path.slash
  if byte '.' ∈ last then (last.takeWhile (fun c => c ≠ byte '.') ++ [byte '.']).reverse else []

def hasReservedPrefix (requestPath : GoString) : Bool :=
  ["/api", "/health", "/ws"].any fun reserved =>
    requestPath = text reserved || (text reserved ++ [Path.slash]).isPrefixOf requestPath

section FileServer

variable (assets : Assets)

/-- `fs.ReadFile` -/
def Assets.readFile (name : GoString) : Option GoString :=
  match assets.open_ name with
  | some (.file data) => some data
  | _ => none

/-- `Open` of what `http.FS` makes of the assets. -/
def Assets.openRooted (name : GoString) : Option Entry :=
  assets.open_ (if name = [Path.slash] then text "." else Path.trimSlash name)

def indexPage : GoString := text "/index.html"

def trailing (path : GoString) : Bool := path.getLast? = some Path.slash

def localRedirect (location query : GoString) : Answer :=
  .redirect (if query = [] then location else location ++ byte '?' :: query)

/-- `serveFile` of net/http. A file goes on to `serveContent`, which decides by
headers what of it is written, and a directory to `dirList`. -/
def serveFile (requestPath query name : GoString) : Answer :=
  if indexPage.isSuffixOf requestPath then localRedirect (text "./") query
  else
    match assets.openRooted name with
    | none => .notFound
    | some (.file data) =>
        if trailing requestPath then
          let base := Path.base requestPath
          if base = [Path.slash] ∨ base = text "." then .failed else localRedirect (text "../" ++ base) query
        else .content data
    | some .directory =>
        if trailing requestPath = false then localRedirect (Path.base requestPath ++ [Path.slash]) query
        else
          let folder := if trailing name then name.dropLast else name
          match assets.openRooted (folder ++ indexPage) with
          | some (.file data) => .content data
          | _ => .listing

/-- `ServeHTTP` of `http.FileServer`. -/
def serveHTTP (requestPath query : GoString) : Answer :=
  let upath := if Path.rooted requestPath then requestPath else Path.slash :: requestPath
  serveFile assets upath query (Path.clean upath)

def frontendHandler (method requestPath query : GoString) : Answer :=
  let cleanPath := Path.trimSlash (Path.clean requestPath)
  if method ≠ text "GET" ∨ hasReservedPrefix requestPath = true then .notFound
  else if cleanPath ≠ text "." ∧ (assets.open_ cleanPath).isSome = true then serveHTTP assets requestPath query
  else if ext cleanPath ≠ [] then .notFound
  else
    match assets.readFile (text "index.html") with
    | none => .notFound
    | some index => .page index

end FileServer

example : ext (text "assets/index-1.tar.gz") = text ".gz" ∧ ext (text "a.b/c") = [] := by decide

/-! ## Names -/

section Names

variable {name requestPath : GoString}

/-- A valid name is one of proper elements. -/
theorem valid_proper (valid : validPath name = true) (other : name ≠ text ".") :
    Path.Proper true (name.splitOn Path.slash) := by
  have parts : ∀ part ∈ name.splitOn Path.slash, part ≠ [] ∧ part ≠ text "." ∧ part ≠ text ".." := by
    simpa [validPath, other, and_assoc] using (Bool.and_eq_true_iff.mp valid).2
  refine ⟨fun part member => ?_, ?_, fun _ member => (parts _ member).2.2 rfl⟩
  · exact ⟨(parts part member).1, (parts part member).2.1, Path.mem_splitOn member⟩
  · rw [List.pairwise_iff_forall_sublist]
    intro earlier later sublist up
    exact absurd up (parts later (sublist.subset (by simp))).2.2

/-- What is looked up for a path are its elements, and they stay below the root. -/
theorem trimSlash_clean (rooted : Path.rooted requestPath = true) :
    Path.trimSlash (Path.clean requestPath) = List.intercalate [Path.slash] (Path.elements requestPath) := by
  rw [Path.clean, rooted]
  rfl

theorem elements_slash (valid : validPath name = true) (other : name ≠ text ".") :
    Path.elements (Path.slash :: name) = name.splitOn Path.slash := by
  have proper := valid_proper valid other
  have written : Path.render true (name.splitOn Path.slash) = Path.slash :: name := by
    have joined : Path.render true (name.splitOn Path.slash) =
        Path.slash :: List.intercalate [Path.slash] (name.splitOn Path.slash) := rfl
    rw [joined, List.intercalate_splitOn]
  rw [← written]
  exact (Path.render_read proper).2

end Names

/-- The name that is looked up for a path. -/
def looked (requestPath : GoString) : GoString := List.intercalate [Path.slash] (Path.elements requestPath)

section Lookups

variable {assets : Assets} {name requestPath query data : GoString} {entry : Entry}

theorem found_named (found : assets.open_ name = some entry) : name ≠ [] ∧ name ≠ [Path.slash] := by
  have valid : validPath name = true := assets.named name (by rw [found]; rfl)
  constructor
  · rintro rfl
    cases valid
  · rintro rfl
    cases valid

theorem clean_looked (rooted : Path.rooted requestPath = true) :
    Path.clean requestPath = Path.slash :: looked requestPath := by
  rw [Path.clean, rooted]
  rfl

theorem openRooted_slash (some_ : name ≠ []) : assets.openRooted (Path.slash :: name) = assets.open_ name := by
  have other : ¬ Path.slash :: name = [Path.slash] := by simpa using some_
  rw [Assets.openRooted, if_neg other]
  rfl

/-- A name that is found does not end with a slash. -/
theorem found_untrailing (rooted : Path.rooted requestPath = true) (found : assets.open_ (looked requestPath) = some entry) :
    trailing (Path.slash :: looked requestPath) = false := by
  have proper := Path.elements_proper requestPath
  rw [rooted] at proper
  rcases List.eq_nil_or_concat (Path.elements requestPath) with none_ | ⟨front, last, parts⟩
  · have empty : looked requestPath = [] := by
      rw [looked, none_]
      rfl
    exact absurd empty (found_named found).1
  · rw [List.concat_eq_append] at parts
    rw [parts] at proper
    obtain ⟨some_, _, flat⟩ := proper.named last (by simp)
    obtain ⟨before, written, _⟩ := Path.render_last (proper.part (List.sublist_append_left _ _)) last some_
    have whole : Path.slash :: looked requestPath = before ++ last := by
      rw [← written, looked, parts]
      rfl
    rw [whole, trailing, List.getLast?_append_of_ne_nil _ some_]
    simp only [decide_eq_false_iff_not]
    exact fun ends => flat (List.mem_of_getLast? ends)

theorem base_flat (untrailing : trailing requestPath = false) (some_ : requestPath ≠ []) :
    Path.base requestPath ≠ [] ∧ Path.slash ∉ Path.base requestPath := by
  obtain ⟨front, last, rfl⟩ := List.eq_nil_or_concat requestPath |>.resolve_left some_
  rw [List.concat_eq_append] at untrailing some_ ⊢
  have apart : last ≠ Path.slash := by simpa [trailing] using untrailing
  have read : Path.base (front ++ [last]) = (front.reverse.takeWhile fun c => c ≠ Path.slash).reverse ++ [last] := by
    unfold Path.base
    rw [if_neg some_]
    simp [apart]
  rw [read]
  refine ⟨by simp, fun member => ?_⟩
  rcases List.mem_append.mp member with before | ends
  · simpa using List.mem_takeWhile_imp (List.mem_reverse.mp before)
  · exact apart (List.mem_singleton.mp ends).symm

theorem unrooted_append {part : GoString} (flat : part ≠ [] ∧ Path.slash ∉ part) (more : GoString) :
    Path.rooted (part ++ more) = false := by
  obtain ⟨first, rest, rfl⟩ := List.exists_cons_of_ne_nil flat.1
  have apart : first ≠ Path.slash := fun same => flat.2 (same ▸ List.mem_cons_self)
  simp [Path.rooted, apart]

/-- What a path may be answered with: a file that is looked up for it, or the index
of a folder that is; redirects do not begin with a slash. -/
def Confined (assets : Assets) (requestPath : GoString) : Answer → Prop
  | .notFound => True
  | .failed => ∃ data, assets.open_ (looked requestPath) = some (.file data)
  | .redirect location => (assets.open_ (looked requestPath)).isSome = true ∧ Path.rooted location = false
  | .content data => assets.open_ (looked requestPath) = some (.file data) ∨
      assets.open_ (looked requestPath) = some .directory ∧
        assets.open_ (looked requestPath ++ indexPage) = some (.file data)
  | .listing => assets.open_ (looked requestPath) = some .directory
  | .page index => assets.open_ (looked requestPath) = none ∧ ext (looked requestPath) = [] ∧
      assets.open_ (text "index.html") = some (.file index)

theorem redirect_confined {location : GoString} (found : assets.open_ (looked requestPath) = some entry)
    (flat : Path.rooted location = false) (still : Path.rooted (location ++ byte '?' :: query) = false) :
    Confined assets requestPath (localRedirect location query) := by
  unfold localRedirect
  refine ⟨by rw [found]; rfl, ?_⟩
  split
  · exact flat
  · exact still

theorem serveFile_confined (rooted : Path.rooted requestPath = true) (found : assets.open_ (looked requestPath) = some entry) :
    Confined assets requestPath (serveFile assets requestPath query (Path.slash :: looked requestPath)) := by
  have some_ : requestPath ≠ [] := by
    rintro rfl
    cases rooted
  unfold serveFile
  rw [openRooted_slash (found_named found).1, found, found_untrailing rooted found]
  dsimp only
  split
  · exact redirect_confined found rfl rfl
  · cases entry with
    | file data =>
        dsimp only
        split
        · split
          · exact ⟨data, found⟩
          · exact redirect_confined found rfl rfl
        · exact .inl found
    | directory =>
        dsimp only
        split
        · next untrailing =>
          have flat := base_flat untrailing some_
          refine redirect_confined found (unrooted_append flat _) ?_
          rw [List.append_assoc]
          exact unrooted_append flat _
        · have index : assets.openRooted (Path.slash :: looked requestPath ++ indexPage) =
              assets.open_ (looked requestPath ++ indexPage) := by
            rw [List.cons_append, openRooted_slash (List.append_ne_nil_of_left_ne_nil (found_named found).1 _)]
          rw [if_neg (by decide), index]
          split
          · next data located => exact .inr ⟨found, located⟩
          · exact found

/-- What the handler does with a rooted path. -/
theorem frontendHandler_rooted (assets : Assets) (method query : GoString) (rooted : Path.rooted requestPath = true) :
    frontendHandler assets method requestPath query =
      if method ≠ text "GET" ∨ hasReservedPrefix requestPath = true then .notFound
      else if (assets.open_ (looked requestPath)).isSome = true then
        serveFile assets requestPath query (Path.slash :: looked requestPath)
      else if ext (looked requestPath) ≠ [] then .notFound
      else (assets.readFile (text "index.html")).elim .notFound .page := by
  have clean : Path.trimSlash (Path.clean requestPath) = looked requestPath := trimSlash_clean rooted
  have moved : looked requestPath ≠ text "." := by
    intro same
    have proper := Path.elements_proper requestPath
    rw [rooted] at proper
    have read := (Path.render_read proper).2
    have written : Path.render true (Path.elements requestPath) = text "/." := by
      change Path.slash :: looked requestPath = text "/."
      rw [same]
      rfl
    rw [written] at read
    rw [looked, ← read] at same
    exact absurd same (by decide)
  unfold frontendHandler serveHTTP
  rw [clean, rooted, if_pos rfl]
  dsimp only
  rw [clean_looked rooted]
  simp only [moved, ne_eq, not_false_eq_true, true_and]
  split
  · rfl
  · split
    · rfl
    · split
      · rfl
      · cases assets.readFile (text "index.html") <;> rfl

theorem readFile_found (read : assets.readFile name = some data) : assets.open_ name = some (.file data) := by
  unfold Assets.readFile at read
  split at read
  · next found =>
    cases read
    exact found
  · cases read

theorem frontendHandler_confined (method : GoString) (rooted : Path.rooted requestPath = true) :
    Confined assets requestPath (frontendHandler assets method requestPath query) := by
  rw [frontendHandler_rooted assets method query rooted]
  split
  · trivial
  · split
    · next found =>
      obtain ⟨entry, located⟩ := Option.isSome_iff_exists.mp found
      exact serveFile_confined rooted located
    · next absent =>
      split
      · trivial
      · next plain =>
        cases read : assets.readFile (text "index.html") with
        | none => trivial
        | some index => exact ⟨by simpa using absent, by simpa using plain, readFile_found read⟩

end Lookups

/-! ## The assets -/

section Served

variable {assets : Assets} {name folder data : GoString}

theorem file_named (found : assets.open_ name = some (.file data)) : name ≠ text "." := by
  rintro rfl
  rw [assets.root] at found
  cases found

theorem looked_slash (valid : validPath name = true) (other : name ≠ text ".") : looked (Path.slash :: name) = name := by
  rw [looked, elements_slash valid other, List.intercalate_splitOn]

theorem looked_trailing (path : GoString) : looked (Path.slash :: (path ++ [Path.slash])) = looked (Path.slash :: path) := by
  have same := Path.clean_trailing (List.cons_ne_nil Path.slash path)
  rw [List.cons_append] at same
  have cleaned := congrArg List.tail same
  rwa [clean_looked rfl, clean_looked rfl] at cleaned

/-- A file is answered under its own name, unless that is one of an index. -/
theorem file_served (found : assets.open_ name = some (.file data))
    (open_ : hasReservedPrefix (Path.slash :: name) = false) (plain : indexPage.isSuffixOf (Path.slash :: name) = false)
    (query : GoString) : frontendHandler assets (text "GET") (Path.slash :: name) query = .content data := by
  have here : looked (Path.slash :: name) = name :=
    looked_slash (assets.named name (by rw [found]; rfl)) (file_named found)
  have untrailing : trailing (Path.slash :: looked (Path.slash :: name)) = false :=
    found_untrailing rfl (by rw [here]; exact found)
  rw [here] at untrailing
  rw [frontendHandler_rooted assets _ query rfl, here, open_, found]
  unfold serveFile
  rw [plain, openRooted_slash (found_named found).1, found, untrailing]
  rfl

/-- The index of a folder is answered under the name of the folder. -/
theorem folder_served (opened : assets.open_ folder = some .directory)
    (found : assets.open_ (folder ++ indexPage) = some (.file data))
    (open_ : hasReservedPrefix (Path.slash :: (folder ++ [Path.slash])) = false) (query : GoString) :
    frontendHandler assets (text "GET") (Path.slash :: (folder ++ [Path.slash])) query = .content data := by
  have other : folder ≠ text "." := by
    rintro rfl
    have valid := assets.named _ (by rw [found]; rfl)
    cases valid
  have here : looked (Path.slash :: (folder ++ [Path.slash])) = folder := by
    rw [looked_trailing]
    exact looked_slash (assets.named folder (by rw [opened]; rfl)) other
  have untrailing : trailing (Path.slash :: folder) = false := by
    have named : trailing (Path.slash :: looked (Path.slash :: (folder ++ [Path.slash]))) = false :=
      found_untrailing rfl (by rw [here]; exact opened)
    rwa [here] at named
  have last : (Path.slash :: (folder ++ [Path.slash])).getLast? = some Path.slash := by
    rw [← List.cons_append, List.getLast?_concat]
  have ends : trailing (Path.slash :: (folder ++ [Path.slash])) = true := by
    rw [trailing, last]
    rfl
  have plain : indexPage.isSuffixOf (Path.slash :: (folder ++ [Path.slash])) = false := by
    by_contra held
    rw [Bool.not_eq_false, List.isSuffixOf_iff_suffix] at held
    obtain ⟨front, whole⟩ := held
    rw [← whole, List.getLast?_append_of_ne_nil _ (by decide)] at last
    exact absurd last (by decide)
  have index : assets.openRooted (Path.slash :: (folder ++ indexPage)) = some (.file data) := by
    rw [openRooted_slash (List.append_ne_nil_of_left_ne_nil (found_named opened).1 _), found]
  rw [frontendHandler_rooted assets _ query rfl, here, open_, opened]
  unfold serveFile
  rw [plain, openRooted_slash (found_named opened).1, opened, untrailing, ends]
  simp [index]

end Served

end NodeAtlas.HTTPAPI
