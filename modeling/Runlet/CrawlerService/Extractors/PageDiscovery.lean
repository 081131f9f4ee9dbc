import Runlet.Library.Url

/-!
# The routes of page discovery

`PageDiscoveryExtractor._normalize_path` of `crawler_service/extractors/page_discovery.py`: the
route of a page is a path without query, hash and trailing slash.  Text with a scheme is read as a
URL, and reading a URL may raise.
-/

namespace Runlet

namespace PageDiscovery

/-- `path.rstrip("/") or "/"`. -/
def trimSlashes (path : String) : String :=
  if Text.rstripChar '/' path = "" then "/" else Text.rstripChar '/' path

/-- A path that starts at the root, without its trailing slashes. -/
def routeOf (path : String) : Option String :=
  if Text.startsWith "/" path then some (trimSlashes path) else none

/-- `_normalize_path` of a text; `none` is what is not a route. -/
def normalizePath (acceptsNetloc : String → Bool) (value : String) :
    Except String (Option String) :=
  let raw := Text.strip value
  if raw = "" then .ok none
  else (Url.urlparse acceptsNetloc raw).map fun parsed =>
    routeOf (if parsed.scheme ≠ "" then parsed.path else Text.before '#' (Text.before '?' raw))

variable {acceptsNetloc : String → Bool}

/-- Blanks at the ends of a route do not matter. -/
theorem normalizePath_strip (value : String) :
    normalizePath acceptsNetloc (Text.strip value) = normalizePath acceptsNetloc value := by
  simp only [normalizePath, Text.strip_strip]

theorem trimSlashes_ne_empty (path : String) : trimSlashes path ≠ "" := by
  unfold trimSlashes
  split
  · decide
  · assumption

theorem startsWith_trimSlashes {path : String} (h : Text.startsWith "/" path = true) :
    Text.startsWith "/" (trimSlashes path) = true := by
  unfold trimSlashes
  split
  · decide
  · rename_i hne
    exact (Text.startsWith_slash_rstripChar h).resolve_left hne

theorem routeOf_ne_empty {path route : String} (h : routeOf path = some route) : route ≠ "" := by
  unfold routeOf at h
  split at h
  · rw [← Option.some.inj h]
    exact trimSlashes_ne_empty path
  · cases h

/-- The normal form of a route is not empty. -/
theorem normalizePath_ne_empty {value route : String}
    (h : normalizePath acceptsNetloc value = .ok (some route)) : route ≠ "" := by
  unfold normalizePath at h
  dsimp only at h
  split at h
  · cases h
  · cases hparsed : Url.urlparse acceptsNetloc (Text.strip value) with
    | error e =>
      rw [hparsed] at h
      cases h
    | ok parsed =>
      rw [hparsed] at h
      exact routeOf_ne_empty (Except.ok.inj h)

/-- Text that is empty up to blanks is not a route. -/
theorem strip_ne_empty {value route : String}
    (h : normalizePath acceptsNetloc value = .ok (some route)) : Text.strip value ≠ "" := by
  intro hempty
  rw [normalizePath, if_pos hempty] at h
  cases h

example : normalizePath (fun _ => true) " /users/list/?tab=2#top " = .ok (some "/users/list") := by
  decide

end PageDiscovery

end Runlet
