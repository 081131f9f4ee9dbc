import Runlet.CrawlerService.Extractors.PageDiscovery
import Runlet.Library.Json

/-!
# The route of a page that was reached

`crawler_service/extractors/route_resolution.py`: a page is asked for its route in four ways, and
the first answer that is a route is taken.  `startsWith_resolvedRoute`: there always is one.
-/

namespace Runlet

structure RouteSnapshot where
  resolvedRoute : String
  routeSource : String
  pathname : Option String
  hashRoute : Option String
  routerRoute : Option String
  historyRoute : Option String
  deriving DecidableEq

namespace RouteResolution

/-- `normalize_route`. -/
def normalizeRoute : Json → Option String
  | .str value =>
    let route := Text.strip value
    if route = "" || !Text.startsWith "/" route then none
    else
      let route := Text.strip (Text.before '?' (Text.before '#' route))
      if route = "" || !Text.startsWith "/" route then none
      else some (PageDiscovery.trimSlashes route)
  | _ => none

/-- `extract_hash_route`: the route behind `#` or `#!`. -/
def extractHashRoute : Json → Option String
  | .str locationHash =>
    let rawHash := Text.strip locationHash
    if rawHash = "" then none
    else if Text.startsWith "#!/" rawHash then
      normalizeRoute (.str (String.ofList (rawHash.toList.drop 2)))
    else if Text.startsWith "#" rawHash then
      normalizeRoute (.str (String.ofList (rawHash.toList.drop 1)))
    else none
  | _ => none

/-- `resolve_route_snapshot`. -/
def resolveRouteSnapshot (pathname locationHash routerRoute historyRoute : Json) : RouteSnapshot :=
  let normalizedPathname := normalizeRoute pathname
  let normalizedHash := extractHashRoute locationHash
  let normalizedRouter := normalizeRoute routerRoute
  let normalizedHistory := normalizeRoute historyRoute
  let answers :=
    [("router", normalizedRouter), ("hash", normalizedHash), ("history", normalizedHistory),
      ("pathname", normalizedPathname)]
  match answers.findSome? fun answer => answer.2.map fun route => (answer.1, route) with
  | some (source, route) => ⟨route, source, normalizedPathname, normalizedHash, normalizedRouter,
      normalizedHistory⟩
  | none => ⟨"/", "fallback", some "/", none, none, none⟩

theorem startsWith_normalizeRoute {value : Json} {route : String}
    (h : normalizeRoute value = some route) : Text.startsWith "/" route = true := by
  cases value with
  | str value =>
    unfold normalizeRoute at h
    dsimp only at h
    split at h
    · cases h
    · split at h
      · cases h
      · rename_i hcut
        rw [Bool.or_eq_true, not_or, Bool.not_eq_true', Bool.not_eq_false] at hcut
        rw [← Option.some_inj.mp h]
        exact PageDiscovery.startsWith_trimSlashes hcut.2
  | null => cases h
  | bool b => cases h
  | int n => cases h
  | float literal q => cases h
  | arr items => cases h
  | obj entries => cases h

theorem startsWith_extractHashRoute {value : Json} {route : String}
    (h : extractHashRoute value = some route) : Text.startsWith "/" route = true := by
  cases value with
  | str locationHash =>
    unfold extractHashRoute at h
    dsimp only at h
    split_ifs at h
    · exact startsWith_normalizeRoute h
    · exact startsWith_normalizeRoute h
  | null => cases h
  | bool b => cases h
  | int n => cases h
  | float literal q => cases h
  | arr items => cases h
  | obj entries => cases h

/-- **A page that was reached has a route**, whatever it answers. -/
theorem startsWith_resolvedRoute (pathname locationHash routerRoute historyRoute : Json) :
    Text.startsWith "/"
      (resolveRouteSnapshot pathname locationHash routerRoute historyRoute).resolvedRoute =
        true := by
  unfold resolveRouteSnapshot
  dsimp only
  split
  · rename_i source route hfound
    obtain ⟨answer, hmem, hroute⟩ := List.exists_of_findSome?_eq_some hfound
    obtain ⟨found, hanswer, hpair⟩ := Option.map_eq_some_iff.mp hroute
    obtain ⟨rfl, rfl⟩ := Prod.mk.inj hpair
    simp only [List.mem_cons, List.not_mem_nil, or_false] at hmem
    rcases hmem with rfl | rfl | rfl | rfl
    · exact startsWith_normalizeRoute hanswer
    · exact startsWith_extractHashRoute hanswer
    · exact startsWith_normalizeRoute hanswer
    · exact startsWith_normalizeRoute hanswer
  · decide

example : (resolveRouteSnapshot (.str "/app") (.str "#!/users?tab=roles") .null
    (.str "/orders")).resolvedRoute = "/users" := by
  decide +kernel

end RouteResolution

end Runlet
