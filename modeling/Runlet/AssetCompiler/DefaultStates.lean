import Runlet.Library.Pieces
import Runlet.AssetCompiler.PageLoop
import Runlet.CrawlerService.Extractors.StateSignatures

/-!
# Two names of the default state

The crawl names the default state of a page by its whole route, `build_state_signature`; the
compiler names it by the last segment of the route, `_build_default_state_signature`.
A check of the default state takes its locators from an element with the compiler's name, and from
any other element when there is none, so that two names are not noticed.

`namesAlike_iff`: the two names are one, and the locators come from the default state whenever it
has an element for them, exactly for a route of a single segment (`IsSingleSegment`).
-/

namespace Runlet

open StateProbe AssetCompiler

namespace DefaultStates

/-- The context of a page that is just opened. -/
def defaultContext : List (String × Json) :=
  [("active_tab", .str "default")]

/-- A route without the blanks around it, and without the slashes around what is left. -/
def core (routePath : String) : List Char :=
  Text.stripList (· == '/') (Text.stripList Text.isSpace routePath.toList)

/-- The route is one segment.  A blank before it is followed by a slash, and no blank follows. -/
structure IsSingleSegment (routePath : String) : Prop where
  nonempty : core routePath ≠ []
  noSlash : '/' ∉ core routePath
  noBlank : ∀ c ∈ (core routePath).head?, Text.isSpace c = false
  opening : (∃ c ∈ routePath.toList.head?, Text.isSpace c = true) →
    Text.startsWith "/" (Text.strip routePath) = true
  ending : ∀ c ∈ routePath.toList.getLast?, Text.isSpace c = false

/-! ## The name of the crawl -/

theorem routeSegment_eq (routePath : String) :
    routeSegment routePath =
      if core routePath = [] then "root"
      else Text.replaceChar '/' ':' (String.ofList (core routePath)) := by
  have hcore : Text.stripChar '/' (if Text.startsWith "/" (Text.strip routePath) then
      Text.strip routePath else "/" ++ lstripSlash (Text.strip routePath)) =
      String.ofList (core routePath) := by
    have hdrop : ∀ l : List Char, ('/' :: l).dropWhile (· == '/') = l.dropWhile (· == '/') :=
      fun l => List.dropWhile_cons_of_pos (beq_self_eq_true '/')
    split
    · rw [Text.stripChar, core, Text.strip, String.toList_ofList]
    · rw [Text.stripChar, core, lstripSlash, Text.strip, String.toList_append,
        String.toList_ofList, String.toList_ofList, String.toList_ofList, Text.stripList,
        List.singleton_append, hdrop, List.dropWhile_idempotent,
        ← Text.stripList]
  have hempty : Text.replaceChar '/' ':' (String.ofList (core routePath)) = "" ↔
      core routePath = [] := by
    rw [← String.toList_inj, Text.toList_replaceChar, String.toList_ofList]
    exact List.map_eq_nil_iff
  unfold routeSegment
  dsimp only
  rw [hcore]
  simp only [hempty]

theorem buildStateSignature_defaultContext (routePath : String) :
    buildStateSignature routePath defaultContext = routeSegment routePath ++ ":default" := by
  have hlabelled : labelledKeys.filterMap (labelledSuffix defaultContext) = ["default"] := by
    decide +kernel
  have hextra : (sortedKeys defaultContext).filterMap (extraField defaultContext) = [] := by
    decide +kernel
  unfold buildStateSignature
  rw [hlabelled, hextra]
  refine String.toList_injective ?_
  rw [Text.toList_joinWith, String.toList_append]
  simp [List.intercalate_cons_cons]

/-! ## The name of the compiler -/

theorem toList_routeSegments (routePath : String) :
    (routeSegments routePath).map String.toList = Text.pieces '/' routePath.toList := by
  have hempty : (fun segment : String => decide (segment ≠ "")) ∘ String.ofList =
      fun piece => decide (piece ≠ []) := by
    funext piece
    have hiff : String.ofList piece ≠ "" ↔ piece ≠ [] := by
      rw [Ne, ← String.toList_inj, String.toList_ofList]
      rfl
    exact decide_eq_decide.mpr hiff
  rw [← Text.pieces_stripList, routeSegments, Text.splitChar, List.filter_map, hempty,
    List.map_map, Text.stripChar, String.toList_ofList, Text.pieces]
  exact (List.map_congr_left fun piece _ => String.toList_ofList).trans (List.map_id _)

/-- The name the compiler gives to the page: its last segment. -/
def pageKey (routePath : String) : String :=
  (routeSegments routePath).getLast?.getD "page"

theorem getLast?_routeSegments (routePath : String) :
    (routeSegments routePath).getLast?.map String.toList =
      (Text.pieces '/' routePath.toList).getLast? := by
  rw [← toList_routeSegments, List.getLast?_map]

/-! ## Characters that say something -/

/-- A character that is neither a blank nor a slash. -/
def isSolid (c : Char) : Bool :=
  !Text.isSpace c && c != '/'

theorem not_isSolid_of_isSpace {c : Char} (h : Text.isSpace c = true) : ¬ isSolid c = true := by
  simp [isSolid, h]

theorem not_isSolid_slash {c : Char} (h : (c == '/') = true) : ¬ isSolid c = true := by
  simp [isSolid, beq_iff_eq.mp h]

theorem countP_isSolid_stripList {p : Char → Bool} (hp : ∀ c, p c = true → ¬ isSolid c = true)
    (l : List Char) : (Text.stripList p l).countP isSolid = l.countP isSolid := by
  obtain ⟨lead, trail, hl, hlead, htrail⟩ := Text.exists_stripList p l
  have hzero : ∀ r : List Char, (∀ c ∈ r, p c = true) → r.countP isSolid = 0 := fun r hr =>
    List.countP_eq_zero.mpr fun c hc => hp c (hr c hc)
  conv_rhs => rw [hl, List.countP_append, List.countP_append, hzero lead hlead, hzero trail htrail]
  omega

theorem countP_isSolid_core (routePath : String) :
    (core routePath).countP isSolid = routePath.toList.countP isSolid := by
  rw [core, countP_isSolid_stripList fun _ => not_isSolid_slash,
    countP_isSolid_stripList fun _ => not_isSolid_of_isSpace]

/-- A slash that is written as a colon says something. -/
theorem countP_isSolid_replaceChar (l : List Char) :
    (l.map fun c => if c = '/' then ':' else c).countP isSolid =
      l.countP isSolid + l.count '/' := by
  induction l with
  | nil => rfl
  | cons c l ih =>
    rw [List.map_cons, List.countP_cons, List.countP_cons, List.count_cons, ih]
    by_cases hc : c = '/'
    · subst hc
      have hcolon : isSolid ':' = true := by decide
      have hslash : isSolid '/' = false := by decide
      simp [hcolon, hslash]
      omega
    · simp [hc]
      omega

/-! ## When the two names are one -/

section Names

variable {routePath : String}

/-- A route of slashes only has no name in common. -/
theorem core_eq_nil_of_pieces_eq_nil (h : Text.pieces '/' routePath.toList = []) :
    core routePath = [] := by
  cases hcore : core routePath with
  | nil => rfl
  | cons c rest =>
    have hhead : c ∈ (core routePath).head? := by
      rw [hcore]
      rfl
    have hnot :=
      Text.head?_stripList (· == '/') (Text.stripList Text.isSpace routePath.toList) c hhead
    obtain ⟨lead, trail, hl, -, -⟩ := Text.exists_stripList Text.isSpace routePath.toList
    obtain ⟨lead', trail', hl', -, -⟩ :=
      Text.exists_stripList (· == '/') (Text.stripList Text.isSpace routePath.toList)
    have hmem : c ∈ routePath.toList := by
      rw [hl, hl', ← core, hcore]
      simp
    rw [Text.eq_of_pieces_eq_nil h c hmem] at hnot
    exact absurd hnot (by decide)

/-- With one name, the last segment is all that the route says. -/
theorem getLast?_pieces_of_pageKey_eq (h : pageKey routePath = routeSegment routePath) :
    core routePath ≠ [] ∧ '/' ∉ core routePath ∧
      (Text.pieces '/' routePath.toList).getLast? = some (core routePath) := by
  rw [pageKey, routeSegment_eq] at h
  cases hlast : (routeSegments routePath).getLast? with
  | none =>
    have hpieces := getLast?_routeSegments routePath
    rw [hlast, Option.map_none, eq_comm, List.getLast?_eq_none_iff] at hpieces
    rw [hlast, if_pos (core_eq_nil_of_pieces_eq_nil hpieces)] at h
    exact absurd h (by decide)
  | some segment =>
    have hpiece := getLast?_routeSegments routePath
    rw [hlast, Option.map_some, eq_comm] at hpiece
    have hsolid : segment.toList.countP isSolid ≤ (core routePath).countP isSolid := by
      rw [countP_isSolid_core]
      exact (Text.sublist_of_mem_pieces (List.mem_of_getLast? hpiece)).countP_le
    rw [hlast, Option.getD_some] at h
    split at h
    · rename_i hnil
      rw [h, hnil] at hsolid
      exact absurd hsolid (by decide)
    · rename_i hne
      have hchars := congrArg String.toList h
      rw [Text.toList_replaceChar, String.toList_ofList] at hchars
      have hcount := countP_isSolid_replaceChar (core routePath)
      rw [← hchars] at hcount
      have hnoSlash : '/' ∉ core routePath := List.count_eq_zero.mp (by omega)
      have hsame : ((core routePath).map fun c => if c = '/' then ':' else c) =
          core routePath := by
        refine (List.map_congr_left fun c hc => if_neg ?_).trans (List.map_id _)
        rintro rfl
        exact hnoSlash hc
      exact ⟨hne, hnoSlash, by rw [hpiece, hchars, hsame]⟩

/-- The route without the blanks around it: slashes, the core, slashes. -/
theorem exists_slashes (routePath : String) : ∃ slashes slashes' : List Char,
    Text.stripList Text.isSpace routePath.toList = slashes ++ core routePath ++ slashes' ∧
      (∀ c ∈ slashes, c = '/') ∧ ∀ c ∈ slashes', c = '/' := by
  obtain ⟨slashes, slashes', hl, hlead, htrail⟩ :=
    Text.exists_stripList (· == '/') (Text.stripList Text.isSpace routePath.toList)
  exact ⟨slashes, slashes', hl, fun c hc => beq_iff_eq.mp (hlead c hc),
    fun c hc => beq_iff_eq.mp (htrail c hc)⟩

/-- What is before the core of a single segment is empty or ends with a slash. -/
theorem lead_eq_nil_or_getLast? {blanks slashes : List Char} (hslashes : ∀ c ∈ slashes, c = '/')
    (h : slashes = [] → blanks = []) :
    blanks ++ slashes = [] ∨ (blanks ++ slashes).getLast? = some '/' := by
  cases hlast : slashes.getLast? with
  | none =>
    have hnil := List.getLast?_eq_none_iff.mp hlast
    exact Or.inl (by rw [h hnil, hnil, List.append_nil])
  | some c =>
    refine Or.inr ?_
    rw [List.getLast?_append, hlast, Option.some_or,
      hslashes c (List.mem_of_getLast? hlast)]

theorem IsSingleSegment.getLast?_pieces (h : IsSingleSegment routePath) :
    (Text.pieces '/' routePath.toList).getLast? = some (core routePath) := by
  obtain ⟨blanks, blanks', hl, hblanks, hblanks'⟩ :=
    Text.exists_stripList Text.isSpace routePath.toList
  obtain ⟨slashes, slashes', hstrip, hslashes, hslashes'⟩ := exists_slashes routePath
  have hend : blanks' = [] := by
    refine List.getLast?_eq_none_iff.mp (Option.eq_none_iff_forall_not_mem.mpr fun c hc => ?_)
    have hlast : c ∈ routePath.toList.getLast? := by
      rw [hl, List.getLast?_append, Option.mem_def.mp hc]
      rfl
    have hblank := hblanks' c (List.mem_of_getLast? hc)
    rw [h.ending c hlast] at hblank
    exact Bool.false_ne_true hblank
  have hopen : slashes = [] → blanks = [] := by
    rintro rfl
    cases blanks with
    | nil => rfl
    | cons c blanks =>
      have hhead : c ∈ routePath.toList.head? := by
        rw [hl]
        rfl
      obtain ⟨t, ht⟩ := Text.startsWith_slash_iff.mp
        (h.opening ⟨c, hhead, hblanks c List.mem_cons_self⟩)
      rw [Text.strip, String.toList_ofList, hstrip, List.nil_append] at ht
      refine absurd ?_ h.noSlash
      cases hcore : core routePath with
      | nil => exact absurd hcore h.nonempty
      | cons d rest =>
        rw [hcore, List.cons_append] at ht
        rw [(List.cons.inj ht).1]
        exact List.mem_cons_self
  have hparts : routePath.toList = blanks ++ slashes ++ core routePath ++ slashes' := by
    rw [hl, hstrip, hend, List.append_nil]
    simp only [List.append_assoc]
  rw [hparts, Text.pieces_append_of_trail hslashes']
  exact Text.getLast?_pieces_append h.nonempty h.noSlash
    (lead_eq_nil_or_getLast? hslashes hopen)

/-- The last segment of blanks, slashes and a text without slashes. -/
theorem getLast?_pieces_parts {blanks slashes body : List Char} (hblanks : '/' ∉ blanks)
    (hslashes : ∀ c ∈ slashes, c = '/') (hbody : '/' ∉ body) (hne : body ≠ []) :
    (Text.pieces '/' (blanks ++ slashes ++ body)).getLast? =
      some (if slashes = [] then blanks ++ body else body) := by
  split
  · rename_i hnil
    have hmem : '/' ∉ blanks ++ body := fun h => (List.mem_append.mp h).elim hblanks hbody
    rw [hnil, List.append_nil, Text.pieces_of_notMem hmem (List.append_ne_nil_of_right_ne_nil _ hne)]
    rfl
  · rename_i hcons
    exact Text.getLast?_pieces_append hne hbody
      (lead_eq_nil_or_getLast? hslashes fun hnil => absurd hnil hcons)

theorem notMem_slash_of_blanks {l : List Char} (h : ∀ c ∈ l, Text.isSpace c = true) : '/' ∉ l :=
  fun hmem => absurd (h _ hmem) (by decide)

/-- With one name, nothing follows the slashes after the core. -/
theorem trail_eq_nil {blanks slashes slashes' blanks' : List Char}
    (hblanks : ∀ c ∈ blanks, Text.isSpace c = true)
    (hblanks' : ∀ c ∈ blanks', Text.isSpace c = true) (hslashes : ∀ c ∈ slashes, c = '/')
    (hslashes' : ∀ c ∈ slashes', c = '/') {body : List Char} (hne : body ≠ []) (hbody : '/' ∉ body)
    (hblank : ∀ c ∈ body.head?, Text.isSpace c = false)
    (h : (Text.pieces '/' (blanks ++ (slashes ++ body ++ slashes') ++ blanks')).getLast? =
      some body) : blanks' = [] := by
  by_contra hcons
  cases slashes' with
  | nil =>
    have hno : '/' ∉ body ++ blanks' := fun hmem =>
      (List.mem_append.mp hmem).elim hbody (notMem_slash_of_blanks hblanks')
    have hparts : blanks ++ (slashes ++ body ++ []) ++ blanks' =
        blanks ++ slashes ++ (body ++ blanks') := by simp only [List.append_assoc, List.nil_append]
    rw [hparts, getLast?_pieces_parts (notMem_slash_of_blanks hblanks) hslashes hno
      (List.append_ne_nil_of_left_ne_nil hne _)] at h
    have hlength := congrArg List.length (Option.some_inj.mp h)
    have hpos := List.length_pos_iff.mpr hcons
    split at hlength
    · rw [List.length_append, List.length_append] at hlength
      omega
    · rw [List.length_append] at hlength
      omega
  | cons c slashes' =>
    have hlead := @lead_eq_nil_or_getLast? (blanks ++ (slashes ++ body)) (c :: slashes') hslashes'
      fun hnil => absurd hnil (List.cons_ne_nil _ _)
    have hparts : blanks ++ (slashes ++ body ++ c :: slashes') ++ blanks' =
        blanks ++ (slashes ++ body) ++ c :: slashes' ++ blanks' := by
      simp only [List.append_assoc]
    rw [hparts, Text.getLast?_pieces_append hcons (notMem_slash_of_blanks hblanks') hlead] at h
    obtain rfl := Option.some_inj.mp h
    cases blanks' with
    | nil => exact hne rfl
    | cons d rest =>
      have hfalse := hblank d rfl
      rw [hblanks' d List.mem_cons_self] at hfalse
      exact Bool.false_ne_true hfalse.symm

theorem isSingleSegment_of_getLast?_pieces (hne : core routePath ≠ [])
    (hslash : '/' ∉ core routePath)
    (hblank : ∀ c ∈ (core routePath).head?, Text.isSpace c = false)
    (h : (Text.pieces '/' routePath.toList).getLast? = some (core routePath)) :
    IsSingleSegment routePath := by
  obtain ⟨blanks, blanks', hl, hblanks, hblanks'⟩ :=
    Text.exists_stripList Text.isSpace routePath.toList
  obtain ⟨slashes, slashes', hstrip, hslashes, hslashes'⟩ := exists_slashes routePath
  rw [hl, hstrip] at h
  have hend : blanks' = [] :=
    trail_eq_nil hblanks hblanks' hslashes hslashes' hne hslash hblank h
  have hopen : slashes = [] → blanks = [] := by
    intro hnil
    have hparts : blanks ++ (slashes ++ core routePath ++ slashes') ++ blanks' =
        blanks ++ slashes ++ core routePath ++ slashes' := by
      rw [hend, List.append_nil]
      simp only [List.append_assoc]
    rw [hparts, Text.pieces_append_of_trail hslashes', getLast?_pieces_parts
      (notMem_slash_of_blanks hblanks) hslashes hslash hne, if_pos hnil] at h
    exact List.append_left_eq_self.mp (Option.some_inj.mp h)
  rw [hend, List.append_nil] at hl
  refine ⟨hne, hslash, hblank, ?_, ?_⟩
  · rintro ⟨c, hc, hspace⟩
    have hcons : slashes ≠ [] := by
      intro hnil
      rw [hl, hopen hnil, List.nil_append] at hc
      rw [Text.head?_stripList _ _ c hc] at hspace
      exact Bool.false_ne_true hspace
    rw [Text.startsWith_slash_iff, Text.strip, String.toList_ofList, hstrip]
    obtain ⟨d, rest, rfl⟩ := List.exists_cons_of_ne_nil hcons
    rw [hslashes d List.mem_cons_self]
    exact ⟨_, rfl⟩
  · intro c hc
    refine Text.getLast?_stripList Text.isSpace routePath.toList c ?_
    have hbody : Text.stripList Text.isSpace routePath.toList ≠ [] := by
      rw [hstrip]
      simp [hne]
    rw [hl, List.getLast?_append_of_ne_nil _ hbody] at hc
    exact hc

/-- **One name for both.** -/
theorem pageKey_eq_iff (routePath : String) :
    (pageKey routePath = routeSegment routePath ∧
      ∀ c ∈ (core routePath).head?, Text.isSpace c = false) ↔ IsSingleSegment routePath := by
  constructor
  · rintro ⟨hkey, hblank⟩
    obtain ⟨hne, hslash, hlast⟩ := getLast?_pieces_of_pageKey_eq hkey
    exact isSingleSegment_of_getLast?_pieces hne hslash hblank hlast
  · intro h
    refine ⟨?_, h.noBlank⟩
    have hlast := getLast?_routeSegments routePath
    rw [h.getLast?_pieces] at hlast
    obtain ⟨segment, hsegment, hchars⟩ := Option.map_eq_some_iff.mp hlast
    have hsame : ((core routePath).map fun c => if c = '/' then ':' else c) = core routePath := by
      refine (List.map_congr_left fun c hc => if_neg ?_).trans (List.map_id _)
      rintro rfl
      exact h.noSlash hc
    rw [pageKey, hsegment, Option.getD_some, routeSegment_eq, if_neg h.nonempty]
    refine String.toList_injective ?_
    rw [Text.toList_replaceChar, String.toList_ofList, hsame, hchars]

end Names

/-! ## The signatures -/

/-- The name of the crawl for the default state. -/
def crawlSignature (routePath : String) : String :=
  buildStateSignature routePath defaultContext

theorem buildDefaultStateSignature_eq_iff (routePath : String) :
    buildDefaultStateSignature routePath = crawlSignature routePath ↔
      pageKey routePath = routeSegment routePath := by
  rw [crawlSignature, buildStateSignature_defaultContext, buildDefaultStateSignature, ← pageKey,
    ← String.toList_inj, String.toList_append, String.toList_append, List.append_left_inj,
    String.toList_inj]

/-- Only blanks before the route are stripped from a signature. -/
theorem strip_append_default (s : String) : Text.strip (s ++ ":default") =
    String.ofList (s.toList.dropWhile Text.isSpace ++ ":default".toList) := by
  have hdefault : ":default".toList.dropWhile Text.isSpace = ":default".toList := by decide
  have hlead : (s ++ ":default").toList.dropWhile Text.isSpace =
      s.toList.dropWhile Text.isSpace ++ ":default".toList := by
    rw [String.toList_append, List.dropWhile_append, hdefault]
    split
    · rename_i hempty
      rw [List.isEmpty_iff.mp hempty, List.nil_append]
    · rfl
  have htrail : (s.toList.dropWhile Text.isSpace ++ ":default".toList).rdropWhile Text.isSpace =
      s.toList.dropWhile Text.isSpace ++ ":default".toList := by
    refine List.rdropWhile_eq_self_iff.mpr fun hne => ?_
    rw [List.getLast_append_of_right_ne_nil _ _ (by decide)]
    decide
  rw [Text.strip, Text.stripList, hlead, htrail]

theorem strip_append_default_eq_iff (s : String) :
    Text.strip (s ++ ":default") = s ++ ":default" ↔
      ∀ c ∈ s.toList.head?, Text.isSpace c = false := by
  rw [strip_append_default, ← String.toList_inj, String.toList_ofList, String.toList_append,
    List.append_left_inj]
  cases s.toList with
  | nil => simp
  | cons c rest =>
    rw [List.dropWhile_eq_self_iff]
    simp

theorem ne_of_strip_append_default {s other : String} (h : other.length < 8) :
    Text.strip (s ++ ":default") ≠ other := by
  rintro rfl
  rw [strip_append_default, ← String.length_toList, String.toList_ofList, List.length_append] at h
  have hlength : ":default".toList.length = 8 := by decide
  omega

theorem strip_crawlSignature_eq_iff (routePath : String) :
    Text.strip (crawlSignature routePath) = crawlSignature routePath ↔
      ∀ c ∈ (core routePath).head?, Text.isSpace c = false := by
  rw [crawlSignature, buildStateSignature_defaultContext, strip_append_default_eq_iff,
    routeSegment_eq]
  split
  · rename_i hnil
    rw [hnil]
    simp only [List.head?_nil, Option.not_mem_none, false_implies, implies_true, iff_true]
    intro c hc
    rw [← Option.some_inj.mp hc]
    decide
  · rw [Text.toList_replaceChar, String.toList_ofList]
    cases core routePath with
    | nil => simp
    | cons c rest =>
      by_cases hc : c = '/'
      · subst hc
        simp only [List.map_cons, List.head?_cons, if_pos, Option.mem_some_iff, forall_eq']
        decide
      · simp [hc]

/-! ## The locators of a check of the default state -/

/-- The locators of an element row. -/
def bundleOf (row : PageElement) : LocatorBundle :=
  LocatorBundles.buildLocatorBundle (rawCandidates row) (entriesOf row.stateContext)

/-- A row of the type a check wants that has a locator. -/
def IsWanted (checkCode : String) (row : PageElement) : Prop :=
  (∀ elementType ∈ expectedElementTypeForCheck checkCode,
    Text.strip row.elementType = elementType) ∧ (bundleOf row).candidates ≠ []

/-- A row the crawl saw in the default state.  A row that names no state is one. -/
def SeenInDefaultState (routePath : String) (row : PageElement) : Prop :=
  normalizeText row.stateSignature = "" ∨
    normalizeText row.stateSignature = Text.strip (crawlSignature routePath)

/-- The locators of a check are those of a row seen in the default state, when there is one. -/
def TakesDefaultElement (cx : CompileContext) (page : Page)
    (definition : StandardCheckDefinition) : Prop :=
  (∃ row ∈ elementsOfPage cx page, IsWanted definition.checkCode row ∧
    SeenInDefaultState page.routePath row) →
  ∃ row ∈ elementsOfPage cx page, IsWanted definition.checkCode row ∧
    SeenInDefaultState page.routePath row ∧
    selectLocatorBundleForCheck definition.checkCode (checkStateSignature page definition)
      (defaultStateSignature page) (normalizedElements cx page) =
        ⟨(bundleOf row).candidates.map normalizeLocatorCandidate⟩

/-- An element after cleaning is of the wanted type exactly when its row is. -/
theorem isWanted_iff {checkCode : String} {row : PageElement} {signature : String} :
    ((decide ((expectedElementTypeForCheck checkCode).getD "" = "") ||
      decide (Text.strip (buildNormalizedElement row signature).elementType =
        (expectedElementTypeForCheck checkCode).getD "")) = true ∧
      (!(buildNormalizedElement row signature).locatorBundle.candidates.isEmpty) = true) ↔
      IsWanted checkCode row := by
  have hbundle : (buildNormalizedElement row signature).locatorBundle = bundleOf row := rfl
  have htype : Text.strip (buildNormalizedElement row signature).elementType =
      Text.strip row.elementType := Text.strip_strip _
  rw [hbundle, htype, IsWanted]
  refine and_congr ?_ (by simp)
  rw [Bool.or_eq_true, decide_eq_true_iff, decide_eq_true_iff]
  unfold expectedElementTypeForCheck
  split <;> simp

/-- The element that is found: a row of the wanted type whose state, after cleaning, is the one
looked for. -/
theorem findElementBundle_eq_some {rows : List PageElement} {checkCode signature wanted : String}
    {bundle : LocatorBundle} (hne : wanted ≠ "")
    (h : findElementBundle (rows.map fun row => buildNormalizedElement row signature)
      (expectedElementTypeForCheck checkCode) wanted = some bundle) :
    ∃ row ∈ rows, IsWanted checkCode row ∧
      Text.strip (buildNormalizedElement row signature).stateSignature = wanted ∧
      bundle = ⟨(bundleOf row).candidates.map normalizeLocatorCandidate⟩ := by
  obtain ⟨element, hfind, rfl⟩ := Option.map_eq_some_iff.mp h
  obtain ⟨row, hrow, rfl⟩ := List.mem_map.mp (List.mem_of_find?_eq_some hfind)
  have hpred := List.find?_some hfind
  rw [Bool.and_eq_true, Bool.and_eq_true, and_assoc, isWanted_iff, Bool.or_eq_true,
    decide_eq_true_iff, decide_eq_true_iff] at hpred
  exact ⟨row, hrow, hpred.2, hpred.1.resolve_left hne, rfl⟩

theorem exists_findElementBundle {rows : List PageElement} {checkCode signature wanted : String}
    {row : PageElement} (hrow : row ∈ rows) (hwanted : IsWanted checkCode row)
    (hstate : Text.strip (buildNormalizedElement row signature).stateSignature = wanted) :
    ∃ bundle, findElementBundle (rows.map fun row => buildNormalizedElement row signature)
      (expectedElementTypeForCheck checkCode) wanted = some bundle := by
  refine Option.isSome_iff_exists.mp ?_
  rw [findElementBundle, Option.isSome_map, List.find?_isSome]
  refine ⟨_, List.mem_map_of_mem hrow, ?_⟩
  rw [Bool.and_eq_true, Bool.and_eq_true, and_assoc, isWanted_iff, Bool.or_eq_true,
    decide_eq_true_iff, decide_eq_true_iff]
  exact ⟨Or.inr hstate, hwanted⟩

/-- The state of an element after cleaning. -/
theorem strip_stateSignature (row : PageElement) (signature : String) :
    Text.strip (buildNormalizedElement row signature).stateSignature =
      if normalizeText row.stateSignature = "" then Text.strip signature
      else normalizeText row.stateSignature := by
  have hclean : Text.strip (normalizeText row.stateSignature) =
      normalizeText row.stateSignature := by
    cases row.stateSignature with
    | none => exact Text.strip_empty
    | some s => exact Text.strip_strip s
  unfold buildNormalizedElement
  dsimp only
  split
  · rfl
  · exact hclean

/-- Both sides agree on which rows are of the default state when both have one name for it. -/
theorem strip_stateSignature_eq_iff {routePath : String} {row : PageElement}
    (hname : buildDefaultStateSignature routePath = crawlSignature routePath)
    (hstrip : Text.strip (crawlSignature routePath) = crawlSignature routePath) :
    Text.strip (buildNormalizedElement row
      (buildDefaultStateSignature routePath)).stateSignature =
        buildDefaultStateSignature routePath ↔ SeenInDefaultState routePath row := by
  unfold SeenInDefaultState
  rw [strip_stateSignature, hname, hstrip]
  split
  · rename_i hempty
    exact iff_of_true rfl (Or.inl hempty)
  · rename_i hsome
    rw [or_iff_right hsome]

theorem takes_default_element {page : Page} (h : IsSingleSegment page.routePath)
    (cx : CompileContext) (definition : StandardCheckDefinition)
    (hdefault : checkStateSignature page definition = defaultStateSignature page) :
    TakesDefaultElement cx page definition := by
  rintro ⟨row, hrow, hwanted, hseen⟩
  have hname := (buildDefaultStateSignature_eq_iff page.routePath).mpr
    ((pageKey_eq_iff page.routePath).mpr h).1
  have hstrip := (strip_crawlSignature_eq_iff page.routePath).mpr h.noBlank
  have hne : buildDefaultStateSignature page.routePath ≠ "" := by
    rw [hname, ← hstrip, crawlSignature, buildStateSignature_defaultContext]
    exact ne_of_strip_append_default (by decide)
  obtain ⟨bundle, hbundle⟩ := exists_findElementBundle hrow hwanted
    ((strip_stateSignature_eq_iff hname hstrip).mpr hseen)
  obtain ⟨row', hrow', hwanted', hstate, hsame⟩ := findElementBundle_eq_some hne hbundle
  refine ⟨row', hrow', hwanted', (strip_stateSignature_eq_iff hname hstrip).mp hstate, ?_⟩
  unfold selectLocatorBundleForCheck
  dsimp only
  rw [hdefault, if_pos rfl, List.findSome?_singleton, normalizedElements, defaultStateSignature,
    hbundle, Option.some_or, Option.getD_some, hsame]

/-! ## A page whose default state is not found -/

section Unfound

variable (routePath : String)

def locators (selector : String) : List Json :=
  [.obj [("strategy_type", .str "css"), ("selector", .str selector)]]

/-- A button of a dialog of the page. -/
def dialogRow : PageElement :=
  { id := 1, systemId := 1, snapshotId := 1, pageId := 1, elementType := "button",
    stateSignature := some "dialog", locatorCandidates := some (locators "dialog > button") }

/-- A button of the page itself. -/
def defaultRow : PageElement :=
  { id := 2, systemId := 1, snapshotId := 1, pageId := 1, elementType := "button",
    stateSignature := some (crawlSignature routePath),
    locatorCandidates := some (locators "main > button") }

def pageRow : Page :=
  { id := 1, systemId := 1, routePath := routePath }

def dialogContext : CompileContext where
  ids := IdSource.ascending
  now := 0
  system := { id := 1, code := "crm", name := "CRM", baseUrl := "https://crm.example.com" }
  snapshot := { id := 1, systemId := 1, crawlType := "full", startedAt := 0 }
  pages := [pageRow routePath]
  menus := []
  elements := [dialogRow, defaultRow routePath]

/-- The check every page gets. -/
def pageOpen : StandardCheckDefinition where
  checkCode := "page_open"
  goal := "page_open"
  assertionSchema := some [("assertion", .str "page_ready")]
  stateSignature := some (buildDefaultStateSignature routePath)

theorem bundleOf_defaultRow : bundleOf (defaultRow routePath) =
    LocatorBundles.buildLocatorBundle (locators "main > button") [] := rfl

theorem elementsOfPage_dialogContext :
    elementsOfPage (dialogContext routePath) (pageRow routePath) =
      [dialogRow, defaultRow routePath] := rfl

theorem checkStateSignature_pageOpen : checkStateSignature (pageRow routePath)
    (pageOpen routePath) = defaultStateSignature (pageRow routePath) := by
  unfold checkStateSignature
  split <;> rfl

theorem standardChecks_dialogContext :
    standardChecks (dialogContext routePath) (pageRow routePath) = [pageOpen routePath] := by
  have hstates : collectRepresentativeStates
      (normalizedElements (dialogContext routePath) (pageRow routePath)) = [] := by
    rw [collectRepresentativeStates, List.filterMap_eq_nil_iff.mpr, List.eraseDups_nil]
    intro element helement
    rw [normalizedElements, elementsOfPage_dialogContext] at helement
    obtain ⟨row, hrow, rfl⟩ := List.mem_map.mp helement
    have hentry : LocatorBundles.cleanText
        ((Json.obj (entriesOf row.stateContext)).get? "entry_type") = "" := by
      rcases List.mem_cons.mp hrow with rfl | hrow
      · rfl
      · rw [List.mem_singleton.mp hrow]
        rfl
    unfold representativeState?
    dsimp only [buildNormalizedElement]
    rw [hentry]
    simp
  have htable : hasTable (dialogContext routePath) (pageRow routePath) = false := by
    have hbutton : decide (Text.strip (Text.strip "button") = "table") = false := by
      decide +kernel
    rw [hasTable, normalizedElements, elementsOfPage_dialogContext]
    exact Bool.or_eq_false_iff.mpr ⟨hbutton, Bool.or_eq_false_iff.mpr ⟨hbutton, rfl⟩⟩
  have hcreate : hasCreateAction (dialogContext routePath) (pageRow routePath) = false := by
    rw [hasCreateAction, normalizedElements, elementsOfPage_dialogContext]
    rfl
  unfold standardChecks
  rw [hstates, htable, hcreate]
  rfl

/-- When the name of the crawl is changed by stripping, its elements are not found by it, and the
check of the page takes a button of a dialog. -/
theorem not_takes_default_element
    (hname : buildDefaultStateSignature routePath = crawlSignature routePath)
    (hstrip : Text.strip (crawlSignature routePath) ≠ crawlSignature routePath) :
    ¬ TakesDefaultElement (dialogContext routePath) (pageRow routePath) (pageOpen routePath) := by
  have hshort : ∀ other : String, other.length < 8 →
      Text.strip (crawlSignature routePath) ≠ other := fun other hother => by
    rw [crawlSignature, buildStateSignature_defaultContext]
    exact ne_of_strip_append_default hother
  have hseen : SeenInDefaultState routePath (defaultRow routePath) := Or.inr rfl
  have hwanted : ∀ row ∈ [dialogRow, defaultRow routePath], IsWanted "page_open" row := by
    intro row hrow
    refine ⟨fun elementType htype => absurd htype (Option.not_mem_none _), ?_⟩
    rcases List.mem_cons.mp hrow with rfl | hrow
    · decide +kernel
    · rw [List.mem_singleton.mp hrow, bundleOf_defaultRow]
      decide +kernel
  intro htakes
  obtain ⟨row, hrow, -, hrowSeen, hbundle⟩ :=
    htakes ⟨defaultRow routePath, List.mem_cons_of_mem _ List.mem_cons_self,
      hwanted _ (List.mem_cons_of_mem _ List.mem_cons_self), hseen⟩
  have hdefault : defaultStateSignature (pageRow routePath) = crawlSignature routePath := hname
  have hnone : findElementBundle (normalizedElements (dialogContext routePath) (pageRow routePath))
      (expectedElementTypeForCheck "page_open") (defaultStateSignature (pageRow routePath)) =
        none := by
    refine Option.eq_none_iff_forall_ne_some.mpr fun bundle hfind => ?_
    have hne : crawlSignature routePath ≠ "" := fun hempty =>
      hshort "" (by decide) (by rw [hempty, Text.strip_empty])
    rw [normalizedElements, elementsOfPage_dialogContext, hdefault] at hfind
    obtain ⟨row, hrow, -, hstate, -⟩ := findElementBundle_eq_some hne hfind
    rw [strip_stateSignature] at hstate
    split at hstate
    · exact hstrip hstate
    · rcases List.mem_cons.mp hrow with rfl | hrow
      · refine hshort "dialog" (by decide) ?_
        rw [← hstate]
        decide +kernel
      · rw [List.mem_singleton.mp hrow] at hstate
        change Text.strip (crawlSignature routePath) = crawlSignature routePath at hstate
        exact hstrip hstate
  have hfirst : findElementBundle (normalizedElements (dialogContext routePath) (pageRow routePath))
      (expectedElementTypeForCheck "page_open") "" =
        some ⟨(bundleOf dialogRow).candidates.map normalizeLocatorCandidate⟩ := by
    rw [findElementBundle, normalizedElements, elementsOfPage_dialogContext, List.map_cons,
      List.find?_cons_of_pos]
    · rfl
    · rw [Bool.and_eq_true, Bool.and_eq_true, and_assoc, isWanted_iff]
      exact ⟨rfl, hwanted _ List.mem_cons_self⟩
  unfold selectLocatorBundleForCheck at hbundle
  dsimp only at hbundle
  rw [checkStateSignature_pageOpen, if_pos rfl, List.findSome?_singleton,
    show (pageOpen routePath).checkCode = "page_open" from rfl, hnone, Option.none_or, hfirst,
    Option.getD_some] at hbundle
  rcases List.mem_cons.mp hrow with rfl | hrow
  · rcases hrowSeen with hrowSeen | hrowSeen
    · exact absurd hrowSeen (by decide +kernel)
    · exact hshort "dialog" (by decide) (hrowSeen.symm.trans (by decide +kernel))
  · obtain rfl := List.mem_singleton.mp hrow
    have hselectors := congrArg (fun bundle => bundle.candidates.map (·.selector)) hbundle
    rw [bundleOf_defaultRow] at hselectors
    exact absurd hselectors (by decide +kernel)

end Unfound

/-! ## Compiler and crawl -/

/-- The compiler names the default state of a route as the crawl does, and the checks of the
default state take their locators from it. -/
structure NamesAlike (routePath : String) : Prop where
  signature : buildDefaultStateSignature routePath = buildStateSignature routePath defaultContext
  bundle : ∀ (cx : CompileContext) (page : Page), page.routePath = routePath →
    ∀ definition ∈ standardChecks cx page,
      checkStateSignature page definition = defaultStateSignature page →
        TakesDefaultElement cx page definition

/-- **Compiler and crawl name the default state alike for a single segment, and for no other
route.** -/
theorem namesAlike_iff (routePath : String) :
    NamesAlike routePath ↔ IsSingleSegment routePath := by
  constructor
  · intro h
    have hname := h.signature
    refine (pageKey_eq_iff routePath).mp
      ⟨(buildDefaultStateSignature_eq_iff routePath).mp hname, ?_⟩
    refine (strip_crawlSignature_eq_iff routePath).mp (not_not.mp fun hstrip => ?_)
    refine not_takes_default_element routePath hname hstrip (h.bundle _ _ rfl _ ?_ ?_)
    · rw [standardChecks_dialogContext]
      exact List.mem_cons_self
    · exact checkStateSignature_pageOpen routePath
  · intro h
    refine ⟨(buildDefaultStateSignature_eq_iff routePath).mpr ((pageKey_eq_iff routePath).mpr h).1,
      fun cx page hpage definition _ hdefault => ?_⟩
    subst hpage
    exact takes_default_element h cx definition hdefault

/-- The page `/system/users` has two names. -/
theorem two_names : ¬ ∀ routePath : String, NamesAlike routePath := by
  intro h
  have hname := (h "/system/users").signature
  revert hname
  decide +kernel

end DefaultStates

end Runlet
