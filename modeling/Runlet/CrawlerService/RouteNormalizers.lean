import Runlet.CrawlerService.Extractors.RouteResolution
import Runlet.CrawlerService.Extractors.StateElements

/-!
# Four normal forms of a route

Routes are normalized by the route resolution, the navigation targets, the page discovery and the
state probe, each in its own way.  A route is handed from one layer to the next, so it should be the
same route to all of them.

The state probe keeps query and hash.  All four remove blanks before they remove slashes, so a blank
before a slash comes to the end, where the next layer removes it.  And page discovery reads its text
as a URL, which raises when the text names a network location that is none.
`normalizers_agree_iff`: where none of this happens, the four are one function.
-/

namespace Runlet

namespace RouteNormalizers

open PageDiscovery (trimSlashes startsWith_trimSlashes)

/-- The layers that normalize routes. -/
inductive Layer where
  | routeResolution
  | navigationTargets
  | pageDiscovery
  | stateProbe
  deriving DecidableEq

variable (acceptsNetloc : String → Bool)

/-- The normalizer of a layer.  Only page discovery reads URLs, which may raise. -/
def normalize : Layer → String → Except String (Option String)
  | .routeResolution, value => .ok (RouteResolution.normalizeRoute (.str value))
  | .navigationTargets, value => .ok (NavigationTargets.normalizeRoute (.str value))
  | .pageDiscovery, value => PageDiscovery.normalizePath acceptsNetloc value
  | .stateProbe, value => .ok (StateProbe.normalizeRoutePath (.str value))

/-- What a layer makes of the text is a route to every layer, and the same one. -/
def IsOneFunctionAt (value : String) : Prop :=
  ∀ (layer : Layer) (route : String), normalize acceptsNetloc layer value = .ok (some route) →
    normalize acceptsNetloc layer route = .ok (some route) ∧
      ∀ other other' : Layer,
        normalize acceptsNetloc other route = normalize acceptsNetloc other' route

variable {acceptsNetloc}

/-! ## Text that starts with a slash -/

section Slash

variable {value : String}

theorem not_refused (h : Text.startsWith "/" value = true) :
    ¬ ((value = "" || !Text.startsWith "/" value) = true) := by
  simp [h, Text.ne_empty_of_startsWith_slash h]

theorem refused (h : ¬ Text.startsWith "/" value = true) :
    (value = "" || !Text.startsWith "/" value) = true := by
  simp [h]

theorem normalize_routeResolution :
    RouteResolution.normalizeRoute (.str value) =
      if Text.startsWith "/" (Text.strip value) then
        some (trimSlashes (Text.strip (Text.before '?' (Text.before '#' (Text.strip value)))))
      else none := by
  unfold RouteResolution.normalizeRoute
  dsimp only
  split_ifs with hrefused hslash hcut hslash hslash
  · exact absurd hrefused (not_refused hslash)
  · rfl
  · refine absurd hcut (not_refused (Text.startsWith_slash_strip ?_))
    rw [Text.startsWith_slash_before (by decide), Text.startsWith_slash_before (by decide)]
    exact hslash
  · rfl
  · rfl
  · exact absurd (refused hslash) hrefused

theorem normalize_navigationTargets :
    NavigationTargets.normalizeRoute (.str value) =
      if Text.startsWith "/" (Text.strip value) then
        some (trimSlashes (Text.before '#' (Text.before '?' (Text.strip value))))
      else none := by
  unfold NavigationTargets.normalizeRoute trimSlashes
  dsimp only
  split_ifs with hrefused hslash hempty hslash hslash
  · exact absurd hrefused (not_refused hslash)
  · rfl
  · rfl
  · exact absurd (refused hslash) hrefused
  · rfl
  · exact absurd (refused hslash) hrefused

theorem normalize_stateProbe :
    StateProbe.normalizeRoutePath (.str value) =
      if Text.startsWith "/" (Text.strip value) then some (trimSlashes (Text.strip value))
      else none := by
  unfold StateProbe.normalizeRoutePath PageDiscovery.normalizeRoutePath trimSlashes
  dsimp only
  split_ifs with hrefused hslash hempty hslash hslash
  · exact absurd hrefused (not_refused hslash)
  · rfl
  · rfl
  · exact absurd (refused hslash) hrefused
  · rfl
  · exact absurd (refused hslash) hrefused

end Slash

/-! ## Routes -/

section Routes

variable {path : String}

theorem trimSlashes_trimSlashes : trimSlashes (trimSlashes path) = trimSlashes path := by
  unfold trimSlashes
  split
  · decide
  · rename_i hne
    rw [Text.rstripChar_rstripChar, if_neg hne]

/-- Only slashes are removed, and none but a slash is added. -/
theorem mem_trimSlashes_iff {c : Char} (hc : c ≠ '/') :
    c ∈ (trimSlashes path).toList ↔ c ∈ path.toList := by
  obtain ⟨tail, htail, hpath⟩ := Text.exists_rstripChar '/' path
  have hiff : c ∈ path.toList ↔ c ∈ (Text.rstripChar '/' path).toList := by
    rw [hpath, List.mem_append]
    exact or_iff_left fun h => hc (htail c h)
  rw [hiff, trimSlashes]
  split
  · rename_i hempty
    rw [hempty]
    exact iff_of_false (fun h => hc (List.mem_singleton.mp h)) List.not_mem_nil
  · rfl

/-- A route names the network location that its path names. -/
theorem netlocOf_trimSlashes (h : Text.startsWith "/" path = true) :
    Url.netlocOf (trimSlashes path) = Url.netlocOf path := by
  obtain ⟨tail, htail, hpath⟩ := Text.exists_rstripChar '/' path
  unfold trimSlashes
  split
  · rename_i hempty
    rw [hempty, String.toList_empty, List.nil_append] at hpath
    obtain ⟨l, hl⟩ := Text.startsWith_slash_iff.mp h
    rw [hl] at hpath
    refine (@Url.netlocOf_append_slashes _ _ l (fun c hc => htail c ?_) (by decide) hl).symm
    rw [← hpath]
    exact List.mem_cons_of_mem _ hc
  · rename_i hne
    exact (Url.netlocOf_append_slashes htail
      ((Text.startsWith_slash_rstripChar h).resolve_left hne) hpath).symm

theorem isReadable_trimSlashes (h : Text.startsWith "/" path = true) :
    Url.IsReadable acceptsNetloc (trimSlashes path) ↔ Url.IsReadable acceptsNetloc path := by
  rw [Url.isReadable_iff, Url.isReadable_iff, netlocOf_trimSlashes h]

theorem strip_trimSlashes_iff :
    Text.strip (trimSlashes path) = trimSlashes path ↔
      Text.strip (Text.rstripChar '/' path) = Text.rstripChar '/' path := by
  unfold trimSlashes
  split
  · rename_i hempty
    rw [hempty]
    exact iff_of_true (by decide) (by decide)
  · rfl

/-- A path that is what trimming made of its stripped text had no blanks. -/
theorem strip_eq_of_trimSlashes_strip {route : String} (hslash : Text.startsWith "/" route = true)
    (h : trimSlashes (Text.strip route) = route) : Text.strip route = route := by
  obtain ⟨l, hl⟩ := Text.startsWith_slash_iff.mp hslash
  have hstrip : (Text.strip route).toList = route.toList.rdropWhile Text.isSpace := by
    rw [Text.strip, String.toList_ofList, Text.stripList, hl,
      List.dropWhile_cons_of_neg (by decide)]
  unfold trimSlashes at h
  split at h
  · rw [← h]
    decide
  · have hlist := congrArg String.toList h
    rw [Text.rstripChar, String.toList_ofList, hstrip] at hlist
    rw [← String.toList_inj, hstrip]
    exact Text.rdropWhile_eq_self_of_twice hlist

end Routes

/-! ## The layers on a route -/

section Layers

variable {route : String}

theorem normalizePath_of_slash (hstrip : Text.strip route = route)
    (hslash : Text.startsWith "/" route = true) {result : String} :
    PageDiscovery.normalizePath acceptsNetloc route = .ok (some result) ↔
      Url.IsReadable acceptsNetloc route ∧
        trimSlashes (Text.before '#' (Text.before '?' route)) = result := by
  have hcut : Text.startsWith "/" (Text.before '#' (Text.before '?' route)) = true := by
    rw [Text.startsWith_slash_before (by decide), Text.startsWith_slash_before (by decide)]
    exact hslash
  unfold PageDiscovery.normalizePath Url.IsReadable
  dsimp only
  rw [hstrip, if_neg (Text.ne_empty_of_startsWith_slash hslash)]
  cases hparsed : Url.urlparse acceptsNetloc route with
  | error e => exact iff_of_false (fun h => by cases h) fun h => by cases h.1.choose_spec
  | ok parsed =>
    have hscheme : ¬ parsed.scheme ≠ "" := not_not.mpr (Url.scheme_of_slash hslash hparsed)
    have hmap : Except.map (fun parsed : Url.Parsed =>
        PageDiscovery.routeOf (if parsed.scheme ≠ "" then parsed.path
          else Text.before '#' (Text.before '?' route))) (Except.ok (ε := String) parsed) =
        .ok (some (trimSlashes (Text.before '#' (Text.before '?' route)))) := by
      rw [Except.map, if_neg hscheme, PageDiscovery.routeOf, if_pos hcut]
    rw [hmap]
    constructor
    · exact fun h => ⟨⟨parsed, rfl⟩, Option.some_inj.mp (Except.ok.inj h)⟩
    · exact fun h => by rw [h.2]

/-- **A trimmed path without query and hash is a route to every layer exactly when blanks do not
end it and it can be read as a URL.** -/
theorem forall_normalize_iff (hslash : Text.startsWith "/" route = true)
    (htrim : trimSlashes route = route) (hquery : '?' ∉ route.toList)
    (hhash : '#' ∉ route.toList) :
    (∀ layer, normalize acceptsNetloc layer route = .ok (some route)) ↔
      Text.strip route = route ∧ Url.IsReadable acceptsNetloc route := by
  have hcut : Text.before '#' (Text.before '?' route) = route := by
    rw [Text.before_of_notMem hquery, Text.before_of_notMem hhash]
  have hcut' : Text.before '?' (Text.before '#' route) = route := by
    rw [Text.before_of_notMem hhash, Text.before_of_notMem hquery]
  constructor
  · intro h
    have hprobe := Except.ok.inj (h .stateProbe)
    rw [normalize_stateProbe, if_pos (Text.startsWith_slash_strip hslash)] at hprobe
    have hstrip := strip_eq_of_trimSlashes_strip hslash (Option.some_inj.mp hprobe)
    exact ⟨hstrip, ((normalizePath_of_slash hstrip hslash).mp (h .pageDiscovery)).1⟩
  · rintro ⟨hstrip, hreadable⟩ layer
    cases layer with
    | routeResolution =>
      rw [normalize, normalize_routeResolution, hstrip, if_pos hslash, hcut', hstrip, htrim]
    | navigationTargets =>
      rw [normalize, normalize_navigationTargets, hstrip, if_pos hslash, hcut, htrim]
    | pageDiscovery =>
      exact (normalizePath_of_slash hstrip hslash).mpr ⟨hreadable, by rw [hcut, htrim]⟩
    | stateProbe => rw [normalize, normalize_stateProbe, hstrip, if_pos hslash, htrim]

end Layers

/-! ## Raw text -/

section Raw

variable {value path : String}

variable (acceptsNetloc) in
/-- No blank stands before the trailing slashes of a path, and it can be read as a URL. -/
structure IsSettledPath (path : String) : Prop where
  noBlank : Text.strip (Text.rstripChar '/' path) = Text.rstripChar '/' path
  readable : Url.IsReadable acceptsNetloc path

variable (acceptsNetloc) in
/-- Text with one reading: a path without query and hash, or a URL with such a path. -/
def HasOneReading (value : String) : Prop :=
  if Text.startsWith "/" (Text.strip value) then
    '?' ∉ (Text.strip value).toList ∧ '#' ∉ (Text.strip value).toList ∧
      IsSettledPath acceptsNetloc (Text.strip value)
  else
    ∀ parsed : Url.Parsed, Url.urlparse acceptsNetloc (Text.strip value) = .ok parsed →
      parsed.scheme ≠ "" → Text.startsWith "/" parsed.path = true →
        IsSettledPath acceptsNetloc parsed.path

theorem isOneFunctionAt_iff : IsOneFunctionAt acceptsNetloc value ↔
    ∀ (layer : Layer) (route : String), normalize acceptsNetloc layer value = .ok (some route) →
      ∀ other, normalize acceptsNetloc other route = .ok (some route) := by
  constructor
  · intro h layer route hroute other
    obtain ⟨hidempotent, hagree⟩ := h layer route hroute
    rw [hagree other layer, hidempotent]
  · intro h layer route hroute
    have hall := h layer route hroute
    exact ⟨hall layer, fun other other' => by rw [hall other, hall other']⟩

/-- The route of a path without query and hash. -/
theorem forall_normalize_trimSlashes_iff (hslash : Text.startsWith "/" path = true)
    (hquery : '?' ∉ path.toList) (hhash : '#' ∉ path.toList) :
    (∀ layer, normalize acceptsNetloc layer (trimSlashes path) = .ok (some (trimSlashes path))) ↔
      IsSettledPath acceptsNetloc path := by
  rw [forall_normalize_iff (startsWith_trimSlashes hslash) trimSlashes_trimSlashes
    (fun h => hquery ((mem_trimSlashes_iff (by decide)).mp h))
    (fun h => hhash ((mem_trimSlashes_iff (by decide)).mp h)),
    strip_trimSlashes_iff, isReadable_trimSlashes hslash]
  exact ⟨fun h => ⟨h.1, h.2⟩, fun h => ⟨h.noBlank, h.readable⟩⟩

/-- What navigation targets make of a text holds neither a query nor a hash. -/
theorem notMem_of_normalizeRoute {route : String}
    (h : NavigationTargets.normalizeRoute (.str value) = some route) :
    '?' ∉ route.toList ∧ '#' ∉ route.toList := by
  rw [normalize_navigationTargets] at h
  split at h
  · rw [← Option.some_inj.mp h, mem_trimSlashes_iff (by decide), mem_trimSlashes_iff (by decide)]
    exact ⟨fun hmem => Text.notMem_before '?' _ (Text.mem_of_mem_before hmem),
      Text.notMem_before '#' _⟩
  · cases h

theorem isOneFunctionAt_slash_iff (hslash : Text.startsWith "/" (Text.strip value) = true) :
    IsOneFunctionAt acceptsNetloc value ↔
      '?' ∉ (Text.strip value).toList ∧ '#' ∉ (Text.strip value).toList ∧
        IsSettledPath acceptsNetloc (Text.strip value) := by
  rw [isOneFunctionAt_iff]
  constructor
  · intro h
    have hprobe : normalize acceptsNetloc .stateProbe value =
        .ok (some (trimSlashes (Text.strip value))) := by
      rw [normalize, normalize_stateProbe, if_pos hslash]
    have hall := h .stateProbe _ hprobe
    have hclean := notMem_of_normalizeRoute (Except.ok.inj (hall .navigationTargets))
    rw [mem_trimSlashes_iff (by decide), mem_trimSlashes_iff (by decide)] at hclean
    exact ⟨hclean.1, hclean.2,
      (forall_normalize_trimSlashes_iff hslash hclean.1 hclean.2).mp hall⟩
  · rintro ⟨hquery, hhash, hsettled⟩ layer route hroute
    have hall := (forall_normalize_trimSlashes_iff hslash hquery hhash).mpr hsettled
    have hcut : Text.before '#' (Text.before '?' (Text.strip value)) = Text.strip value := by
      rw [Text.before_of_notMem hquery, Text.before_of_notMem hhash]
    have hcut' : Text.before '?' (Text.before '#' (Text.strip value)) = Text.strip value := by
      rw [Text.before_of_notMem hhash, Text.before_of_notMem hquery]
    have htrim : trimSlashes (Text.strip value) = route := by
      cases layer with
      | routeResolution =>
        rw [normalize, normalize_routeResolution, if_pos hslash, hcut', Text.strip_strip] at hroute
        exact Option.some_inj.mp (Except.ok.inj hroute)
      | navigationTargets =>
        rw [normalize, normalize_navigationTargets, if_pos hslash, hcut] at hroute
        exact Option.some_inj.mp (Except.ok.inj hroute)
      | pageDiscovery =>
        rw [normalize, ← PageDiscovery.normalizePath_strip] at hroute
        rw [← ((normalizePath_of_slash (Text.strip_strip value) hslash).mp hroute).2, hcut]
      | stateProbe =>
        rw [normalize, normalize_stateProbe, if_pos hslash] at hroute
        exact Option.some_inj.mp (Except.ok.inj hroute)
    rw [← htrim]
    exact hall

/-- Page discovery takes other text for a route when it is a URL with a scheme. -/
theorem normalizePath_of_not_slash (hslash : ¬ Text.startsWith "/" (Text.strip value) = true)
    {route : String} :
    PageDiscovery.normalizePath acceptsNetloc value = .ok (some route) ↔
      ∃ parsed, Url.urlparse acceptsNetloc (Text.strip value) = .ok parsed ∧ parsed.scheme ≠ "" ∧
        Text.startsWith "/" parsed.path = true ∧ trimSlashes parsed.path = route := by
  have hcut :
      ¬ Text.startsWith "/" (Text.before '#' (Text.before '?' (Text.strip value))) = true := by
    rw [Text.startsWith_slash_before (by decide), Text.startsWith_slash_before (by decide)]
    exact hslash
  unfold PageDiscovery.normalizePath
  dsimp only
  split_ifs with hempty
  · refine iff_of_false (fun h => by cases h) ?_
    rintro ⟨parsed, hparsed, hscheme, -⟩
    rw [hempty] at hparsed
    have hnone : Url.urlparse acceptsNetloc "" = .ok { scheme := "", path := "" } := by rfl
    rw [hnone] at hparsed
    rw [← Except.ok.inj hparsed] at hscheme
    exact hscheme rfl
  · cases hparsed : Url.urlparse acceptsNetloc (Text.strip value) with
    | error e =>
      refine iff_of_false (fun h => by cases h) ?_
      rintro ⟨_, h, -⟩
      cases h
    | ok parsed =>
      rw [Except.map, PageDiscovery.routeOf]
      constructor
      · intro h
        by_cases hscheme : parsed.scheme ≠ ""
        · rw [if_pos hscheme] at h
          split at h
          · rename_i hpath
            exact ⟨parsed, rfl, hscheme, hpath, Option.some_inj.mp (Except.ok.inj h)⟩
          · cases h
        · rw [if_neg hscheme, if_neg hcut] at h
          cases h
      · rintro ⟨parsed', hsame, hscheme, hpath, rfl⟩
        obtain rfl := Except.ok.inj hsame
        rw [if_pos hscheme, if_pos hpath]

theorem isOneFunctionAt_not_slash_iff
    (hslash : ¬ Text.startsWith "/" (Text.strip value) = true) :
    IsOneFunctionAt acceptsNetloc value ↔
      ∀ parsed : Url.Parsed, Url.urlparse acceptsNetloc (Text.strip value) = .ok parsed →
        parsed.scheme ≠ "" → Text.startsWith "/" parsed.path = true →
          IsSettledPath acceptsNetloc parsed.path := by
  rw [isOneFunctionAt_iff]
  constructor
  · intro h parsed hparsed hscheme hpath
    obtain ⟨hquery, hhash⟩ := Url.notMem_path hparsed
    exact (forall_normalize_trimSlashes_iff hpath hquery hhash).mp
      (h .pageDiscovery _ ((normalizePath_of_not_slash hslash).mpr
        ⟨parsed, hparsed, hscheme, hpath, rfl⟩))
  · intro h layer route hroute
    cases layer with
    | routeResolution =>
      rw [normalize, normalize_routeResolution, if_neg hslash] at hroute
      cases hroute
    | navigationTargets =>
      rw [normalize, normalize_navigationTargets, if_neg hslash] at hroute
      cases hroute
    | pageDiscovery =>
      obtain ⟨parsed, hparsed, hscheme, hpath, rfl⟩ :=
        (normalizePath_of_not_slash hslash).mp hroute
      obtain ⟨hquery, hhash⟩ := Url.notMem_path hparsed
      exact (forall_normalize_trimSlashes_iff hpath hquery hhash).mpr
        (h parsed hparsed hscheme hpath)
    | stateProbe =>
      rw [normalize, normalize_stateProbe, if_neg hslash] at hroute
      cases hroute

end Raw

/-- **The four normalizers are one function on a text exactly when it has one reading.** -/
theorem normalizers_agree_iff (acceptsNetloc : String → Bool) (value : String) :
    IsOneFunctionAt acceptsNetloc value ↔ HasOneReading acceptsNetloc value := by
  unfold HasOneReading
  split_ifs with hslash
  · exact isOneFunctionAt_slash_iff hslash
  · exact isOneFunctionAt_not_slash_iff hslash

/-- The state probe keeps a query that every other layer cuts off. -/
theorem query_is_kept : ¬ IsOneFunctionAt (fun _ => true) "/users?tab=roles" := by
  intro h
  have hagree := (h .stateProbe "/users?tab=roles" rfl).2 .stateProbe .navigationTargets
  exact absurd (Except.ok.inj hagree) (by decide)

end RouteNormalizers
end Runlet
