import NodeAtlas.Adapters.VirtFusion
import NodeAtlas.URL.Reference

/-! The console targets of VirtFusion. -/

set_option autoImplicit false

namespace NodeAtlas.Adapters.VirtFusion

open Network

section Targets

variable (library : Library)

def resolveVNC (portalURL : URL) (raw : GoString) : Except GoError URL :=
  match URL.parse library.literal (trimSpace raw) with
  | none => .error (providerFailure "VirtFusion returned an invalid VNC endpoint")
  | some reference =>
      if reference.string = [] ∨ reference.user ≠ none ∨ reference.fragment ≠ [] then
        .error (providerFailure "VirtFusion returned an invalid VNC endpoint")
      else
        let target := if reference.scheme ≠ [] then reference else portalURL.resolveReference reference
        let expectedScheme := if portalURL.scheme = text "http" then text "ws" else text "wss"
        let target :=
          if target.scheme = portalURL.scheme then { target with scheme := expectedScheme } else target
        if target.scheme ≠ expectedScheme ∨
            sameOrigin library.toNetLibrary target { portalURL with scheme := expectedScheme } = false ∨
            trimSpace target.path = [] then
          .error (providerFailure "VirtFusion returned an untrusted VNC endpoint")
        else .ok target

/-- A console target on the host of a panel. -/
structure OnPanel (panel target : URL) : Prop where
  scheme : target.scheme = text "wss"
  host : library.equalFold target.hostname panel.hostname = true
  port : effectivePort target = effectivePort panel
  user : target.user = none
  fragment : target.fragment = []
  path : target.path ≠ []

variable {library}

/-- What `normalizeEndpoint` leaves of an endpoint that it accepts in production. -/
structure Panel (portal : URL) : Prop where
  scheme : portal.scheme = text "https"
  user : portal.user = none
  fragment : portal.fragment = []

theorem normalizeEndpoint_panel {raw : GoString} {portal api : URL}
    (normalized : Network.VirtFusion.normalizeEndpoint library.toNetLibrary raw false = .ok (portal, api)) :
    Panel portal := by
  unfold Network.VirtFusion.normalizeEndpoint at normalized
  split at normalized
  · cases normalized
  split at normalized
  · cases normalized
  next absolute =>
  split at normalized
  · cases normalized
  next secure =>
  split at normalized
  · cases normalized
  split at normalized
  · cases normalized
  · cases normalized
    simp only [not_or, ne_eq, Classical.not_not] at absolute
    refine ⟨?_, absolute.2.1, absolute.2.2.2⟩
    by_contra other
    exact secure ⟨other, by simp⟩

theorem resolveVNC_onPanel {raw endpoint : GoString} {portal api target : URL}
    (normalized : Network.VirtFusion.normalizeEndpoint library.toNetLibrary endpoint false = .ok (portal, api))
    (resolved : resolveVNC library portal raw = .ok target) : OnPanel library portal target := by
  obtain ⟨https, portalUser, portalFragment⟩ := normalizeEndpoint_panel normalized
  unfold resolveVNC at resolved
  split at resolved
  · cases resolved
  next reference _ =>
  split at resolved
  · cases resolved
  next bare =>
  simp only [not_or, ne_eq, Classical.not_not] at bare
  obtain ⟨_, user, fragment⟩ := bare
  have other : ¬text "https" = text "http" := by decide
  rw [https, if_neg other] at resolved
  dsimp only at resolved
  -- Where the reference leads, before and after its scheme is rewritten.
  generalize led : (if reference.scheme ≠ [] then reference else portal.resolveReference reference) = meant at resolved
  have clean : meant.user = none ∧ meant.fragment = [] := by
    rw [← led]
    split
    · exact ⟨user, fragment⟩
    · exact ⟨URL.resolveReference_user portalUser user, URL.resolveReference_fragment portalFragment fragment⟩
  generalize rewritten : (if meant.scheme = text "https" then { meant with scheme := text "wss" } else meant) = final
    at resolved
  have kept : final.user = none ∧ final.fragment = [] := by
    rw [← rewritten]
    split
    · exact clean
    · exact clean
  split at resolved
  · cases resolved
  next trusted =>
  simp only [not_or, ne_eq, Classical.not_not, Bool.not_eq_false] at trusted
  obtain ⟨scheme, same, path⟩ := trusted
  obtain rfl := Except.ok.inj resolved
  simp only [sameOrigin, Bool.and_eq_true, decide_eq_true_eq] at same
  refine ⟨scheme, same.1.2, same.2.trans (effectivePort_wss https _ _), kept.1, kept.2, ?_⟩
  intro empty
  rw [empty] at path
  exact path (by decide)

end Targets

def examplePanel : URL := { scheme := text "https", host := text "panel.example" }

theorem resolveVNC_onPanel_relative :
    OnPanel plainLibrary examplePanel
      { scheme := text "wss", host := text "panel.example", path := text "/vnc/", rawQuery := text "token=a" } := by
  have normalized : Network.VirtFusion.normalizeEndpoint plainLibrary.toNetLibrary (text "https://panel.example/api")
      false = .ok (examplePanel, { examplePanel with path := text "/api" }) := by
    decide +kernel
  have resolved : resolveVNC plainLibrary examplePanel (text "vnc/?token=a") = .ok
      { scheme := text "wss", host := text "panel.example", path := text "/vnc/", rawQuery := text "token=a" } := by
    decide +kernel
  exact resolveVNC_onPanel normalized resolved

end NodeAtlas.Adapters.VirtFusion
