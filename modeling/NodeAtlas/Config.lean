import NodeAtlas.URL

/-! What the application reads from its environment about its public origin. -/

set_option autoImplicit false

namespace NodeAtlas.Config

def envOrDefault (value fallback : GoString) : GoString :=
  if trimSpace value ≠ [] then trimSpace value else fallback

/-- `Load`, as far as `APP_ENV` and `PUBLIC_ORIGIN` go; without a value there is
no public origin. -/
def loadPublicOrigin (literal : GoString → Bool) (appEnv publicOrigin : GoString) :
    Except GoError (Option URL) := do
  let environment := envOrDefault appEnv (text "development")
  let rawOrigin := trimSpace publicOrigin
  let publicOrigin ←
    if rawOrigin = [] then pure none
    else
      match URL.parse literal rawOrigin with
      | none => throw (.plain (text "PUBLIC_ORIGIN must be an absolute http or https URL"))
      | some parsed =>
          if parsed.host = [] ∨ (parsed.scheme ≠ text "http" ∧ parsed.scheme ≠ text "https") then
            throw (.plain (text "PUBLIC_ORIGIN must be an absolute http or https URL"))
          else if parsed.path ≠ [] ∧ parsed.path ≠ text "/" then
            throw (.plain (text "PUBLIC_ORIGIN must not contain a path"))
          else pure (some parsed)
  if environment = text "production" ∧ publicOrigin.map (·.scheme) ≠ some (text "https") then
    throw (.plain (text "production PUBLIC_ORIGIN must use https"))
  return publicOrigin

/-- What holds of a URL that `Load` took. -/
theorem loadPublicOrigin_checked {literal : GoString → Bool} {appEnv publicOrigin : GoString} {url : URL}
    (loaded : loadPublicOrigin literal appEnv publicOrigin = .ok (some url)) :
    URL.parse literal (trimSpace publicOrigin) = some url ∧ url.host ≠ [] ∧
      (url.scheme = text "http" ∨ url.scheme = text "https") ∧ (url.path = [] ∨ url.path = text "/") := by
  unfold loadPublicOrigin at loaded
  dsimp only at loaded
  split at loaded
  · simp only [pure_bind] at loaded
    split at loaded <;> cases loaded
  · split at loaded
    · cases loaded
    · rename_i parsed accepted
      split at loaded
      · cases loaded
      · rename_i absolute
        split at loaded
        · cases loaded
        · rename_i bare
          simp only [pure_bind] at loaded
          split at loaded
          · cases loaded
          · cases loaded
            refine ⟨accepted, fun absent => absolute (.inl absent), ?_, ?_⟩
            · by_contra other
              exact absolute (.inr (not_or.mp other))
            · by_contra other
              exact bare (not_or.mp other)

end NodeAtlas.Config
