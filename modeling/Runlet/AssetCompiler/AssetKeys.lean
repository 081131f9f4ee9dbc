import Runlet.Library.Words
import Runlet.AssetCompiler.Compiled

/-!
# What an asset key tells apart

The key of an asset is made from the code of the system and the route of a page.  The separator `.`
may stand in a segment, and `-` is written `_`, so two routes may have one key; the loop then finds
the asset of the first page when it comes to the second, and writes over it.

`assetKeyOf_eq_iff` says when two pages have one key, `compiles_apart_iff` when a compile keeps the
pages of a snapshot apart.

## What a turn of the loop leaves alone

`LeavesAsset` is the frame of a turn: the asset with an identifier, its checks, its fingerprints and
its plans.  A turn that writes another asset leaves all of them as they are
(`leavesAsset_compilePage`).
-/

namespace Runlet

open KeyedTable

namespace AssetCompiler

/-! ## Two routes with one slug -/

/-- How a key writes a character of a path. -/
def slugChar (c : Char) : Char :=
  if c = '/' then '.' else if c = '-' then '_' else c

/-- Two characters that a key does not tell apart. -/
def SameInKey (a b : Char) : Prop :=
  a = b ∨ (a ∈ ['/', '.'] ∧ b ∈ ['/', '.']) ∨ (a ∈ ['-', '_'] ∧ b ∈ ['-', '_'])

theorem slugChar_eq_iff {a b : Char} : slugChar a = slugChar b ↔ SameInKey a b := by
  unfold slugChar SameInKey
  simp only [List.mem_cons, List.not_mem_nil, or_false]
  constructor
  · intro h
    by_cases ha : a = '/'
    · subst ha
      grind
    · by_cases ha' : a = '-'
      · subst ha'
        grind
      · grind
  · rintro (rfl | ⟨rfl | rfl, rfl | rfl⟩ | ⟨rfl | rfl, rfl | rfl⟩) <;> simp

/-- A route without its empty segments, one slash between two segments. -/
def pathOf (routePath : String) : List Char :=
  ['/'].intercalate ((routeSegments routePath).map String.toList)

/-- The title in the key of a page without a path. -/
def titleSlug (pageTitle : Option String) : String :=
  Text.lower (Text.replaceChar ' ' '_'
    (Text.strip (if pageTitle.getD "" = "" then "page" else pageTitle.getD "")))

theorem notMem_of_mem_routeSegments {routePath segment : String}
    (h : segment ∈ routeSegments routePath) : '/' ∉ segment.toList := by
  obtain ⟨piece, hpiece, rfl⟩ := List.mem_map.mp (List.mem_of_mem_filter h)
  intro hmem
  rw [String.toList_ofList] at hmem
  simpa using (Text.mem_of_mem_splitOnP hpiece _ hmem).2

theorem toList_buildAssetKey_of_path {systemCode routePath : String} (pageTitle : Option String)
    (h : routeSegments routePath ≠ []) :
    (buildAssetKey systemCode routePath pageTitle).toList =
      (Text.replaceChar '-' '_' (Text.lower systemCode)).toList ++
        '.' :: (pathOf routePath).map slugChar := by
  have hpath : ((['.'] : List Char).intercalate ((routeSegments routePath).map String.toList)).map
      (fun c => if c = '-' then '_' else c) = (pathOf routePath).map slugChar := by
    refine Text.map_intercalate_congr rfl fun piece hpiece c hc => ?_
    obtain ⟨segment, hsegment, rfl⟩ := List.mem_map.mp hpiece
    have hne : c ≠ '/' := fun heq => notMem_of_mem_routeSegments hsegment (heq ▸ hc)
    rw [slugChar, if_neg hne]
  have hne : (routeSegments routePath).map String.toList ≠ [] := by
    rw [Ne, List.map_eq_nil_iff]
    exact h
  unfold buildAssetKey
  rw [if_pos h, Text.toList_replaceChar, Text.toList_joinWith, List.map_cons,
    List.intercalate_cons_of_ne_nil hne, List.map_append, List.map_append, ← hpath,
    Text.toList_replaceChar, List.append_assoc]
  rfl

theorem toList_buildAssetKey_of_root {systemCode routePath : String} (pageTitle : Option String)
    (h : routeSegments routePath = []) :
    (buildAssetKey systemCode routePath pageTitle).toList =
      (Text.lower systemCode).toList ++ '.' :: (titleSlug pageTitle).toList := by
  have htitle : buildAssetKey systemCode routePath pageTitle =
      Text.joinWith "." [Text.lower systemCode, titleSlug pageTitle] := by
    unfold buildAssetKey titleSlug
    rw [if_neg (not_not.mpr h)]
    cases pageTitle <;> rfl
  rw [htitle, Text.toList_joinWith]
  simp [List.intercalate_cons_cons]

/-- Two pages of one system that get one key. -/
inductive SameKey (systemCode : String) (p q : Page) : Prop where
  /-- The paths differ at most in slashes for dots and dashes for underscores. -/
  | paths (hp : routeSegments p.routePath ≠ []) (hq : routeSegments q.routePath ≠ [])
      (h : List.Forall₂ SameInKey (pathOf p.routePath) (pathOf q.routePath))
  /-- Neither page has a path, and their titles read the same. -/
  | titles (hp : routeSegments p.routePath = []) (hq : routeSegments q.routePath = [])
      (h : titleSlug p.pageTitle = titleSlug q.pageTitle)
  /-- The path of one page reads as the title of the other. -/
  | pathTitle (hp : routeSegments p.routePath ≠ []) (hq : routeSegments q.routePath = [])
      (hcode : '-' ∉ (Text.lower systemCode).toList)
      (h : (pathOf p.routePath).map slugChar = (titleSlug q.pageTitle).toList)
  | titlePath (hp : routeSegments p.routePath = []) (hq : routeSegments q.routePath ≠ [])
      (hcode : '-' ∉ (Text.lower systemCode).toList)
      (h : (titleSlug p.pageTitle).toList = (pathOf q.routePath).map slugChar)

theorem forall₂_sameInKey_iff {l l' : List Char} :
    List.Forall₂ SameInKey l l' ↔ l.map slugChar = l'.map slugChar := by
  rw [← List.forall₂_eq_eq_eq, List.forall₂_map_left_iff, List.forall₂_map_right_iff]
  simp only [slugChar_eq_iff]

theorem replaceChar_eq_self_iff {a b : Char} (hab : a ≠ b) {s : String} :
    (Text.replaceChar a b s).toList = s.toList ↔ a ∉ s.toList := by
  have hid : s.toList = s.toList.map id := List.map_id s.toList |>.symm
  rw [Text.toList_replaceChar]
  nth_rewrite 2 [hid]
  rw [List.map_inj_left]
  constructor
  · intro h hmem
    have hfixed := h a hmem
    rw [if_pos rfl] at hfixed
    exact hab hfixed.symm
  · intro h c hc
    refine if_neg ?_
    rintro rfl
    exact h hc

/-- The code of a system, as a key with a path writes it, is as long as the code. -/
theorem length_replaceChar (a b : Char) (s : String) :
    (Text.replaceChar a b s).toList.length = s.toList.length := by
  rw [Text.toList_replaceChar, List.length_map]

/-- A key with a path is a key with a title when the code has no dash and the path reads as the
title. -/
theorem path_eq_title_iff {systemCode : String} {path title : List Char} :
    (Text.replaceChar '-' '_' (Text.lower systemCode)).toList ++ '.' :: path =
        (Text.lower systemCode).toList ++ '.' :: title ↔
      '-' ∉ (Text.lower systemCode).toList ∧ path = title := by
  rw [← replaceChar_eq_self_iff (by decide : '-' ≠ '_')]
  constructor
  · intro h
    obtain ⟨hcode, hrest⟩ := List.append_inj h (length_replaceChar _ _ _)
    exact ⟨hcode, (List.cons.inj hrest).2⟩
  · rintro ⟨hcode, rfl⟩
    rw [hcode]

/-- **When two pages have one key.** -/
theorem buildAssetKey_eq_iff {systemCode : String} {p q : Page} :
    buildAssetKey systemCode p.routePath p.pageTitle =
        buildAssetKey systemCode q.routePath q.pageTitle ↔ SameKey systemCode p q := by
  rw [← String.toList_inj]
  by_cases hp : routeSegments p.routePath = [] <;> by_cases hq : routeSegments q.routePath = []
  · rw [toList_buildAssetKey_of_root _ hp, toList_buildAssetKey_of_root _ hq,
      List.append_cancel_left_eq, List.cons.injEq, String.toList_inj]
    constructor
    · exact fun h => .titles hp hq h.2
    · rintro (⟨h, -, -⟩ | ⟨-, -, h⟩ | ⟨h, -, -, -⟩ | ⟨-, h, -, -⟩)
      · exact absurd hp h
      · exact ⟨rfl, h⟩
      · exact absurd hp h
      · exact absurd hq h
  · rw [toList_buildAssetKey_of_root _ hp, toList_buildAssetKey_of_path _ hq, eq_comm,
      path_eq_title_iff]
    constructor
    · exact fun h => .titlePath hp hq h.1 h.2.symm
    · rintro (⟨h, -, -⟩ | ⟨-, h, -⟩ | ⟨h, -, -, -⟩ | ⟨-, -, hcode, h⟩)
      · exact absurd hp h
      · exact absurd h hq
      · exact absurd hp h
      · exact ⟨hcode, h.symm⟩
  · rw [toList_buildAssetKey_of_path _ hp, toList_buildAssetKey_of_root _ hq, path_eq_title_iff]
    constructor
    · exact fun h => .pathTitle hp hq h.1 h.2
    · rintro (⟨-, h, -⟩ | ⟨h, -, -⟩ | ⟨-, -, hcode, h⟩ | ⟨h, -, -, -⟩)
      · exact absurd hq h
      · exact absurd h hp
      · exact ⟨hcode, h⟩
      · exact absurd h hp
  · rw [toList_buildAssetKey_of_path _ hp, toList_buildAssetKey_of_path _ hq,
      List.append_cancel_left_eq, List.cons.injEq, ← forall₂_sameInKey_iff]
    constructor
    · exact fun h => .paths hp hq h.2
    · rintro (⟨-, -, h⟩ | ⟨h, -, -⟩ | ⟨-, h, -, -⟩ | ⟨h, -, -, -⟩)
      · exact ⟨rfl, h⟩
      · exact absurd h hp
      · exact absurd h hq
      · exact absurd h hp

theorem assetKeyOf_eq_iff {cx : CompileContext} {p q : Page} :
    assetKeyOf cx p = assetKeyOf cx q ↔ SameKey cx.system.code p q := by
  unfold assetKeyOf
  exact buildAssetKey_eq_iff

theorem assetKeyOf_ne_empty (cx : CompileContext) (page : Page) : assetKeyOf cx page ≠ "" := by
  intro hempty
  unfold assetKeyOf at hempty
  have hlist := congrArg String.toList hempty
  by_cases h : routeSegments page.routePath = []
  · rw [toList_buildAssetKey_of_root _ h] at hlist
    simp at hlist
  · rw [toList_buildAssetKey_of_path _ h] at hlist
    simp at hlist

/-! ## The frame of a turn -/

/-- Nothing that belongs to an asset is changed from one database to another. -/
structure LeavesAsset (id : UUID) (db db' : Db) : Prop where
  asset : ∀ a : PageAsset, a.id = id → (a ∈ db'.pageAssets ↔ a ∈ db.pageAssets)
  checks : ∀ c : PageCheck, c.pageAssetId = id → (c ∈ db'.pageChecks ↔ c ∈ db.pageChecks)
  fingerprints : ∀ s : AssetSnapshot, s.pageAssetId = id →
    (s ∈ db'.assetSnapshots ↔ s ∈ db.assetSnapshots)
  plans : ∀ m : ModulePlan, m.pageAssetId = id → (m ∈ db'.modulePlans ↔ m ∈ db.modulePlans)

section Frame

variable {cx : CompileContext} {page : Page} {id : UUID}

theorem LeavesAsset.refl (id : UUID) (db : Db) : LeavesAsset id db db :=
  ⟨fun _ _ => Iff.rfl, fun _ _ => Iff.rfl, fun _ _ => Iff.rfl, fun _ _ => Iff.rfl⟩

theorem LeavesAsset.trans {db db' db'' : Db} (h : LeavesAsset id db db')
    (h' : LeavesAsset id db' db'') : LeavesAsset id db db'' :=
  ⟨fun a ha => (h'.asset a ha).trans (h.asset a ha),
    fun c hc => (h'.checks c hc).trans (h.checks c hc),
    fun s hs => (h'.fingerprints s hs).trans (h.fingerprints s hs),
    fun m hm => (h'.plans m hm).trans (h.plans m hm)⟩

theorem leavesAsset_compileAsset {db : Db} (h : (compileAsset cx page db).2.1.id ≠ id) :
    LeavesAsset id db (compileAsset cx page db).1 where
  asset := by
    intro a ha
    have hne : key a ≠ key (compileAsset cx page db).2.1 := fun hkey => h (hkey.symm.trans ha)
    rw [(writes_compileAsset cx page db).mem]
    constructor
    · rintro (rfl | ⟨hmem, -⟩)
      · exact absurd rfl hne
      · exact hmem
    · exact fun hmem => Or.inr ⟨hmem, hne⟩
  checks := fun _ _ => Iff.rfl
  fingerprints := by
    intro s hs
    refine Table.mem_insert.trans (or_iff_left ?_)
    rintro rfl
    exact h hs
  plans := fun _ _ => Iff.rfl

theorem leavesAsset_compileCheck {asset : PageAsset} {st : CompileState}
    (definition : StandardCheckDefinition) (h : asset.id ≠ id) :
    LeavesAsset id st.db (compileCheck cx page asset st definition).db where
  asset := fun _ _ => Iff.rfl
  checks := by
    intro c hc
    refine (writes_compileCheck cx page asset st definition).mem_iff_of_neg ?_
    rw [← Bool.not_eq_true, checkSel_iff]
    exact fun hsel => h (hsel.1.symm.trans hc)
  fingerprints := fun _ _ => Iff.rfl
  plans := by
    intro m hm
    refine Table.mem_insert.trans (or_iff_left ?_)
    rintro rfl
    exact h hm

variable (cx page) in
theorem leavesAsset_foldl_compileCheck {asset : PageAsset} (h : asset.id ≠ id)
    (definitions : List StandardCheckDefinition) (st : CompileState) :
    LeavesAsset id st.db (definitions.foldl (compileCheck cx page asset) st).db := by
  induction definitions generalizing st with
  | nil => exact LeavesAsset.refl id st.db
  | cons d l ih => exact (leavesAsset_compileCheck d h).trans (ih _)

/-- **A turn leaves alone what belongs to another asset.** -/
theorem leavesAsset_compilePage {st : CompileState}
    (h : (compileAsset cx page st.db).2.1.id ≠ id) :
    LeavesAsset id st.db (compilePage cx st page).db := by
  have hchecks := leavesAsset_foldl_compileCheck cx page h
    (standardChecks cx page)
    { st with
      db := (compileAsset cx page st.db).1
      assetsUpdated :=
        if (st.db.pageAssets.first? (isAssetFor cx.system.id (assetKeyOf cx page))).isNone
        then st.assetsUpdated else st.assetsUpdated + 1
      driftStates := st.driftStates ++ [(compileAsset cx page st.db).2.2.status] }
  have hturn := (leavesAsset_compileAsset h).trans hchecks
  -- The navigation aliases, which the turn writes last, are none of the four tables.
  exact ⟨hturn.asset, hturn.checks, hturn.fingerprints, hturn.plans⟩

end Frame

/-! ## The turns of a compile -/

/-- A page of a snapshot, at its place in the loop. -/
structure Turn (cx : CompileContext) where
  before : List Page
  page : Page
  after : List Page
  pages_eq : cx.pages = before ++ page :: after

namespace Turn

variable {cx : CompileContext} (turn : Turn cx) (db : Db)

def start : CompileState :=
  turn.before.foldl (compilePage cx) { db := db }

def finish : CompileState :=
  compilePage cx (turn.start db) turn.page

/-- The asset that a turn writes; its checks, its fingerprint and its plans name it. -/
def asset : PageAsset :=
  (compileAsset cx turn.page (turn.start db).db).2.1

theorem page_mem : turn.page ∈ cx.pages := by
  rw [turn.pages_eq]
  exact List.mem_append_right _ List.mem_cons_self

theorem exists_of_mem {page : Page} (h : page ∈ cx.pages) : ∃ turn : Turn cx, turn.page = page := by
  obtain ⟨before, after, hpages⟩ := List.append_of_mem h
  exact ⟨⟨before, page, after, hpages⟩, rfl⟩

theorem compilePages_eq :
    compilePages cx db = turn.after.foldl (compilePage cx) (turn.finish db) := by
  unfold compilePages
  rw [turn.pages_eq, List.foldl_append, List.foldl_cons]
  rfl

end Turn

section Turns

variable {cx : CompileContext} {db : Db}

theorem pageAssets_foldl_compileCheck (page : Page) (asset : PageAsset)
    (definitions : List StandardCheckDefinition) (st : CompileState) :
    (definitions.foldl (compileCheck cx page asset) st).db.pageAssets = st.db.pageAssets := by
  induction definitions generalizing st with
  | nil => rfl
  | cons d l ih => exact ih _

theorem pageAssets_compilePage (st : CompileState) (page : Page) :
    (compilePage cx st page).db.pageAssets = (compileAsset cx page st.db).1.pageAssets :=
  pageAssets_foldl_compileCheck page _ (standardChecks cx page) _

/-- An asset that was found keeps its identifier to the end of the loop. -/
theorem exists_first?_foldl_compilePage (pages : List Page) {st : CompileState}
    {i : UUID × String} {a : PageAsset} (h : st.db.pageAssets.first? (assetSel i) = some a) :
    ∃ b, (pages.foldl (compilePage cx) st).db.pageAssets.first? (assetSel i) = some b ∧
      b.id = a.id := by
  induction pages generalizing st a with
  | nil => exact ⟨a, h, rfl⟩
  | cons page l ih =>
    obtain ⟨b, hb, hba⟩ := exists_first?_compileAsset cx page h
    rw [← pageAssets_compilePage] at hb
    obtain ⟨c, hc, hcb⟩ := ih hb
    exact ⟨c, hc, hcb.trans hba⟩

/-- The asset of a turn is the one found under the key of its page when the loop is over. -/
theorem Turn.exists_first? (turn : Turn cx) (db : Db) :
    ∃ a, (compilePages cx db).db.pageAssets.first? (assetSel (assetIndex cx turn.page)) = some a ∧
      a.id = (turn.asset db).id := by
  have hfirst := (writes_compileAsset cx turn.page (turn.start db).db).first?
  rw [← pageAssets_compilePage] at hfirst
  rw [turn.compilePages_eq db]
  exact exists_first?_foldl_compilePage turn.after hfirst

/-- Two turns write one asset exactly when their pages have one key. -/
theorem Turn.asset_id_eq_iff (turn turn' : Turn cx) :
    (turn.asset db).id = (turn'.asset db).id ↔
      assetKeyOf cx turn.page = assetKeyOf cx turn'.page := by
  obtain ⟨a, ha, haid⟩ := turn.exists_first? db
  obtain ⟨b, hb, hbid⟩ := turn'.exists_first? db
  rw [← haid, ← hbid]
  constructor
  · intro hid
    have hab : a = b := Table.eq_of_key_eq (Table.mem_of_first? ha) (Table.mem_of_first? hb) hid
    have hakey := (assetSel_iff.mp (Table.pred_of_first? ha)).2
    have hbkey := (assetSel_iff.mp (Table.pred_of_first? hb)).2
    exact hakey.symm.trans (hab ▸ hbkey)
  · intro hkey
    have hindex : assetIndex cx turn.page = assetIndex cx turn'.page := Prod.ext rfl hkey
    rw [hindex, hb, Option.some_inj] at ha
    rw [ha]

variable (db) in
/-- The page of one turn shares nothing with the page of another: the second turn writes another
asset, and leaves the asset of the first, its checks, its fingerprints and its plans alone. -/
structure KeptApart (turn turn' : Turn cx) : Prop where
  keys : assetKeyOf cx turn.page ≠ assetKeyOf cx turn'.page
  assets : (turn.asset db).id ≠ (turn'.asset db).id
  leaves : LeavesAsset (turn.asset db).id (turn'.start db).db (turn'.finish db).db

variable (cx db) in
/-- Any two pages of the snapshot with different routes are kept apart. -/
def CompilesApart : Prop :=
  ∀ turn turn' : Turn cx, Text.strip turn.page.routePath ≠ Text.strip turn'.page.routePath →
    KeptApart db turn turn'

theorem keptApart_iff {turn turn' : Turn cx} :
    KeptApart db turn turn' ↔ ¬ SameKey cx.system.code turn.page turn'.page := by
  rw [← assetKeyOf_eq_iff]
  constructor
  · exact fun h => h.keys
  · intro hkeys
    have hassets : (turn.asset db).id ≠ (turn'.asset db).id :=
      fun h => hkeys (Turn.asset_id_eq_iff turn turn' |>.mp h)
    exact ⟨hkeys, hassets, leavesAsset_compilePage hassets.symm⟩

end Turns

/-- **When a compile keeps the pages of a snapshot apart**: exactly when no two pages with different
routes have one slug. -/
theorem compiles_apart_iff (cx : CompileContext) (db : Db) :
    CompilesApart cx db ↔
      ∀ p ∈ cx.pages, ∀ q ∈ cx.pages, Text.strip p.routePath ≠ Text.strip q.routePath →
        ¬ SameKey cx.system.code p q := by
  constructor
  · intro h p hp q hq hroutes
    obtain ⟨turn, rfl⟩ := Turn.exists_of_mem hp
    obtain ⟨turn', rfl⟩ := Turn.exists_of_mem hq
    exact keptApart_iff.mp (h turn turn' hroutes)
  · intro h turn turn' hroutes
    exact keptApart_iff.mpr (h _ turn.page_mem _ turn'.page_mem hroutes)

/-! ## A dash and an underscore -/

namespace AssetKeySample

def system : System where
  id := 1
  code := "erp"
  name := "ERP"
  baseUrl := "/"

def snapshot : CrawlSnapshot where
  id := 10
  systemId := 1
  crawlType := "full"
  qualityScore := some 1
  state := .active
  startedAt := 0

def dashed : Page where
  id := 20
  systemId := 1
  snapshotId := some 10
  routePath := "/work-order"

def underscored : Page where
  id := 21
  systemId := 1
  snapshotId := some 10
  routePath := "/work_order"

def db : Db :=
  { systems := .single system
    crawlSnapshots := .single snapshot
    pages := ⟨[dashed, underscored], by decide⟩ }

def call : CompileCall := ⟨.ascending, 1, 10⟩

def context : CompileContext :=
  compileContext .ascending 1 system snapshot db

theorem context_pages : context.pages = [dashed, underscored] := by rfl

theorem routes_ne : Text.strip dashed.routePath ≠ Text.strip underscored.routePath := by
  decide +kernel

/-- The two routes differ in a dash for an underscore. -/
theorem sameKey : SameKey context.system.code dashed underscored := by
  refine .paths (by decide +kernel) (by decide +kernel) ?_
  rw [forall₂_sameInKey_iff]
  decide +kernel

end AssetKeySample

/-- The two pages `/work-order` and `/work_order` are compiled onto one asset. -/
theorem compiles_apart_fails :
    ¬ ∀ (call : CompileCall) (db db' : Db) (cx : CompileContext),
      call.promotedContext db = some (cx, db') → CompilesApart cx db' := by
  intro h
  have hapart := h AssetKeySample.call AssetKeySample.db AssetKeySample.db AssetKeySample.context rfl
  have hkept := hapart
    ⟨[], AssetKeySample.dashed, [AssetKeySample.underscored], AssetKeySample.context_pages⟩
    ⟨[AssetKeySample.dashed], AssetKeySample.underscored, [], AssetKeySample.context_pages⟩
    AssetKeySample.routes_ne
  exact hkept.keys (assetKeyOf_eq_iff.mpr AssetKeySample.sameKey)

end AssetCompiler

end Runlet
