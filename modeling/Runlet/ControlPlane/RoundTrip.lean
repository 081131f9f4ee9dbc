import Runlet.ControlPlane.Withdrawal

/-!
# A page that goes and comes back

A page leaves a snapshot and its asset goes down with all that belongs to it; the page returns in a
later snapshot and the asset comes up again.  Going down follows the key of the asset, so every
alias under the key is disabled and every check is retired.  Coming up follows the checks: an alias
is enabled, and a job resumed, for a check that the later snapshot writes again and finds complete.

So the trip leads back to where it started exactly when every alias under the key, and every job of
the asset, is for a check that comes back, and the later compile adds no alias (`ReturnsWhole`).  An
alias for something that is no check of the asset is disabled on the way down and stays so.
-/

namespace Runlet

open KeyedTable

namespace ControlPlane

open AssetCompiler

/-! ## There and back -/

/-- The active aliases under a key. -/
def activeAliasIds (db : Db) (assetKey : String) : Set UUID :=
  {id | ∃ row ∈ db.intentAliases, row.id = id ∧ row.assetKey = assetKey ∧ row.isActive = true}

/-- The active jobs of a check. -/
def activeJobIds (db : Db) (pageCheckId : UUID) : Set UUID :=
  {id | ∃ job ∈ db.publishedJobs, job.id = id ∧ job.pageCheckId = pageCheckId ∧
    job.state = .active}

/-- The aliases of an asset and the jobs of its checks are active where they were. -/
structure RoundTrip (db : Db) (a : PageAsset) (db' : Db) : Prop where
  aliases : activeAliasIds db' a.assetKey = activeAliasIds db a.assetKey
  jobs : ∀ c ∈ db.pageChecks, c.pageAssetId = a.id → activeJobIds db' c.id = activeJobIds db c.id

/-- The asset has a check under the code, and the snapshot writes it and finds what it needs. -/
structure ComesBack (cx : CompileContext) (db : Db) (a : PageAsset) (code : String) : Prop where
  had : ∃ c ∈ db.pageChecks, c.pageAssetId = a.id ∧ c.checkCode = code
  written : ∃ w, lastWrite cx (a.assetKey, code) = some w
  kept : ¬ LosesWritten cx (a.assetKey, code)

/-- Everything under the asset is for a check that comes back, and nothing is added to it. -/
structure ReturnsWhole (cx : CompileContext) (db : Db) (a : PageAsset) : Prop where
  aliases : ∀ row ∈ db.intentAliases, row.assetKey = a.assetKey →
    row.checkAlias ≠ "" ∧ ComesBack cx db a row.checkAlias
  /-- What the compile wants is there, or is lost with its check. -/
  added : ∀ w ∈ checkWrites cx cx.pages, assetKeyOf cx w.1 = a.assetKey →
    ∀ s ∈ [cx.system.code, cx.system.name], (∃ row ∈ db.intentAliases, IsWantedAlias cx w s row) ∨
      w.2.checkCode ≠ "" ∧ LosesWritten cx (a.assetKey, w.2.checkCode)
  /-- A job is on the check that is found under its code. -/
  jobs : ∀ job ∈ db.publishedJobs, ∀ c ∈ db.pageChecks, c.id = job.pageCheckId →
    c.pageAssetId = a.id →
      db.pageChecks.first? (checkSel (a.id, c.checkCode)) = some c ∧
        ComesBack cx db a c.checkCode

section Return

variable {cx : CompileContext} {service : ControlPlaneService} {now : DateTime} {db db' : Db}
  {a : PageAsset}

/-! ## The asset and its checks -/

/-- The asset that went down is the one under its key. -/
theorem Withdrawn.eq_asset (h : Withdrawn db a db') (hsystem : a.systemId = cx.system.id) :
    ∃ a', a'.id = a.id ∧ a'.assetKey = a.assetKey ∧ a'.lifecycleStatus.retired = true ∧
      db'.pageAssets.first? (assetSel (cx.system.id, a.assetKey)) = some a' ∧
        ∀ b ∈ db'.pageAssets, b.systemId = cx.system.id → b.assetKey = a.assetKey → b = a' := by
  obtain ⟨a', ha', hid, hsystem', hkey, hretired⟩ := h.asset
  have honly : ∀ b ∈ db'.pageAssets, b.systemId = cx.system.id → b.assetKey = a.assetKey →
      b = a' := by
    intro b hb hbsystem hbkey
    exact h.keys.unique b hb a' ha' (hbsystem.trans hsystem.symm) hsystem'
      (hbkey.trans hkey.symm)
  refine ⟨a', hid, hkey, hretired, ?_, honly⟩
  rw [Table.first?_eq_some_iff]
  refine ⟨ha', assetSel_iff.mpr ⟨hsystem'.trans hsystem, hkey⟩, fun b hb hsel => ?_⟩
  have hbsel := assetSel_iff.mp hsel
  rw [honly b hb hbsel.1 hbsel.2]

/-- The checks of the asset are the ones that went down. -/
theorem Withdrawn.check_before (h : Withdrawn db a db') {c' : PageCheck}
    (hc' : c' ∈ db'.pageChecks) (hasset : c'.pageAssetId = a.id) :
    ∃ c ∈ db.pageChecks, c.id = c'.id ∧ c.pageAssetId = a.id ∧ c.checkCode = c'.checkCode ∧
      c'.lifecycleStatus.retired = true := by
  rcases h.checks.source c' hc' with ⟨c, hc, hid, hdown⟩ | ⟨-, hne⟩
  · have hcasset : c.pageAssetId = a.id := hdown.pageAssetId_eq.symm.trans hasset
    exact ⟨c, hc, hid, hcasset, hdown.checkCode.symm, hdown.retired hcasset⟩
  · exact absurd hasset hne

theorem checkSel_eq_of_checkDown {i : UUID × String} {c c' : PageCheck}
    (h : CheckDown a.id c c') : checkSel i c' = checkSel i c := by
  unfold checkSel isCheckFor
  rw [h.pageAssetId_eq, h.checkCode]

theorem checkSel_eq_false_of_ne {c : PageCheck} (h : c.pageAssetId ≠ a.id) (code : String) :
    checkSel (a.id, code) c = false := by
  unfold checkSel isCheckFor
  rw [decide_eq_false h, Bool.false_and]

/-- **A check of the asset comes back** when it is found under its code, written, and kept. -/
theorem Withdrawn.revives_iff (h : Withdrawn db a db') (hsystem : a.systemId = cx.system.id)
    (hgate : (qualityGate cx db').allowRetirement = true) {c' : PageCheck}
    (hc' : c' ∈ db'.pageChecks) (hasset : c'.pageAssetId = a.id) :
    (∃ b, Revives cx db' b c') ↔
      db'.pageChecks.first? (checkSel (a.id, c'.checkCode)) = some c' ∧
        (∃ w, lastWrite cx (a.assetKey, c'.checkCode) = some w) ∧
          ¬ LosesWritten cx (a.assetKey, c'.checkCode) := by
  obtain ⟨a', hid, hkey, -, hfirst, honly⟩ := h.eq_asset hsystem
  obtain ⟨-, -, -, -, -, hretired⟩ := h.check_before hc' hasset
  constructor
  · rintro ⟨b, hrevives⟩
    have hmem := assetSel_of_isRewritten hrevives.rewritten
    have hba : b = a' := Table.eq_of_key_eq hmem.1 (Table.mem_of_first? hfirst)
      (hmem.2.2.symm.trans (hasset.trans hid.symm))
    rw [hba] at hrevives
    have hcheck := hrevives.rewritten.check
    have hwrite := hrevives.rewritten.write
    have hkept := hrevives.kept hgate
    rw [hid] at hcheck
    rw [hkey] at hwrite hkept
    exact ⟨hcheck, hwrite, hkept⟩
  · rintro ⟨hcheck, hwrite, hkept⟩
    refine ⟨a', isHighQuality_of_gate hgate, hretired, ⟨?_, ?_, ?_⟩, fun _ => ?_⟩
    · rw [hkey]
      exact hfirst
    · rw [hid]
      exact hcheck
    · rw [hkey]
      exact hwrite
    · rw [hkey]
      exact hkept

/-- The checks under a code that come back. -/
theorem Withdrawn.exists_revives_iff (h : Withdrawn db a db')
    (hsystem : a.systemId = cx.system.id)
    (hgate : (qualityGate cx db').allowRetirement = true) {code : String} :
    (∃ b c', Revives cx db' b c' ∧ b.assetKey = a.assetKey ∧ c'.checkCode = code) ↔
      ComesBack cx db a code := by
  obtain ⟨a', hid, -, -, -, honly⟩ := h.eq_asset hsystem
  constructor
  · rintro ⟨b, c', hrevives, hbkey, rfl⟩
    have hmem := assetSel_of_isRewritten hrevives.rewritten
    have hbsystem := (assetSel_iff.mp (Table.pred_of_first? hrevives.rewritten.asset)).1
    have hasset : c'.pageAssetId = a.id := by
      rw [hmem.2.2, honly b hmem.1 hbsystem hbkey, hid]
    obtain ⟨c, hc, -, hcasset, hcode, -⟩ := h.check_before hmem.2.1 hasset
    obtain ⟨-, hwrite, hkept⟩ := (h.revives_iff hsystem hgate hmem.2.1 hasset).mp ⟨b, hrevives⟩
    exact ⟨⟨c, hc, hcasset, hcode⟩, hwrite, hkept⟩
  · rintro ⟨⟨c, hc, hcasset, rfl⟩, hwrite, hkept⟩
    have hsel : checkSel (a.id, c.checkCode) c = true := checkSel_iff.mpr ⟨hcasset, rfl⟩
    cases hfirst : db.pageChecks.first? (checkSel (a.id, c.checkCode)) with
    | none =>
      rw [Table.first?_eq_none_iff.mp hfirst c hc] at hsel
      exact absurd hsel Bool.false_ne_true
    | some d =>
      obtain ⟨d', hd', -, hdown⟩ := h.checks.exists_first?
        (fun _ _ => checkSel_eq_of_checkDown) (fun _ hne => checkSel_eq_false_of_ne hne _) hfirst
      obtain ⟨hdasset, hdcode⟩ := checkSel_iff.mp (Table.pred_of_first? hd')
      have hiff := h.revives_iff hsystem hgate (Table.mem_of_first? hd') hdasset
      rw [hdcode] at hiff
      obtain ⟨b, hrevives⟩ := hiff.mpr ⟨hd', hwrite, hkept⟩
      have hbid := (assetSel_of_isRewritten hrevives.rewritten).2.2
      obtain ⟨a'', hid'', hkey'', -, hfirst'', -⟩ := h.eq_asset hsystem
      have hb : b = a'' := Table.eq_of_key_eq (assetSel_of_isRewritten hrevives.rewritten).1
        (Table.mem_of_first? hfirst'') (hbid.symm.trans (hdasset.trans hid''.symm))
      exact ⟨b, d', hrevives, hb ▸ hkey'', hdcode⟩

/-! ## Aliases -/

theorem isActive_row {offIds onIds : List UUID} {snapshotId : UUID} {row : IntentAlias} :
    ((aliasSwitch now snapshotId).row offIds onIds row).isActive = true ↔
      row.id ∉ offIds ∧ (row.isActive = true ∨ row.id ∈ onIds) := by
  by_cases hoff : key row ∈ offIds
  · rw [Switch.row_of_off hoff]
    exact iff_of_false (fun h => Bool.false_ne_true h) fun h => h.1 hoff
  · by_cases hon : key row ∈ onIds
    · rw [Switch.row_of_on hoff hon]
      exact iff_of_true rfl ⟨hoff, Or.inr hon⟩
    · rw [Switch.row_of_notMem hoff hon]
      exact ⟨fun h => ⟨hoff, Or.inl h⟩, fun h => h.2.resolve_right hon⟩

/-- **What becomes of an alias that went down.** -/
theorem Withdrawn.isActive_old_iff (h : Withdrawn db a db') (hsystem : a.systemId = cx.system.id)
    (hpages : PagesIn cx db') (hgate : (qualityGate cx db').allowRetirement = true)
    {row' : IntentAlias} (hrow' : row' ∈ (compilePages cx db').db.intentAliases)
    (hkey : row'.assetKey = a.assetKey) (hinactive : row'.isActive = false)
    (hdisabled : isSystemDisabledAlias row' = true) :
    ((aliasSwitch now cx.snapshot.id).row (compileDecisions cx db').aliasIdsToDisable
        (compileDecisions cx db').aliasIdsToEnable row').isActive = true ↔
      row'.checkAlias ≠ "" ∧ ComesBack cx db a row'.checkAlias := by
  obtain ⟨a', hid, hkey', -, hfirst, -⟩ := h.eq_asset hsystem
  have hne : row'.assetKey ≠ "" := by
    rw [hkey, ← hkey']
    exact h.keys.ne_empty a' (Table.mem_of_first? hfirst)
      ((assetSel_iff.mp (Table.pred_of_first? hfirst)).1.trans hsystem.symm)
  have hdisable := mem_aliasIdsToDisable_iff hpages h.refs hrow'
  have henable := mem_aliasIdsToEnable_iff hpages h.refs hrow'
  rw [isActive_row, hdisable, henable, hinactive]
  unfold RevivesTarget
  rw [hkey, h.exists_revives_iff hsystem hgate]
  rw [hkey] at hne
  constructor
  · rintro ⟨-, hfalse | ⟨-, -, -, hcode, hback⟩⟩
    · exact absurd hfalse Bool.false_ne_true
    · exact ⟨hcode, hback⟩
  · rintro ⟨hcode, hback⟩
    exact ⟨fun hactive => Bool.false_ne_true hactive.1,
      Or.inr ⟨rfl, hdisabled, hne, hcode, hback⟩⟩

/-- Of the asset that went down, only what is written can be lost. -/
theorem Withdrawn.losesTarget_iff (h : Withdrawn db a db') (hsystem : a.systemId = cx.system.id)
    {row' : IntentAlias} (hkey : row'.assetKey = a.assetKey) :
    LosesTarget cx db' row' ↔
      row'.checkAlias ≠ "" ∧ LosesWritten cx (a.assetKey, row'.checkAlias) := by
  obtain ⟨a', hid, hkey', hretired, hfirst, honly⟩ := h.eq_asset hsystem
  have hne : a.assetKey ≠ "" := by
    rw [← hkey']
    exact h.keys.ne_empty a' (Table.mem_of_first? hfirst)
      ((assetSel_iff.mp (Table.pred_of_first? hfirst)).1.trans hsystem.symm)
  unfold LosesTarget LosesCheck
  rw [hkey]
  constructor
  · rintro ⟨-, ⟨b, hb, hbkey⟩ | ⟨hcode, hwritten | ⟨b, c, hold, hbkey, -⟩⟩⟩
    · -- The asset is not active.
      have hactive := hb.active
      rw [honly b hb.mem hb.systemId hbkey] at hactive
      rw [hactive] at hretired
      exact Bool.noConfusion hretired
    · exact ⟨hcode, hwritten⟩
    · -- Nor is any of its checks.
      have hbid := honly b hold.asset_mem hold.systemId hbkey
      have hasset : c.pageAssetId = a.id := by
        rw [hold.pageAssetId, hbid, hid]
      obtain ⟨-, -, -, -, -, hcretired⟩ := h.check_before hold.check_mem hasset
      rw [hold.active] at hcretired
      exact Bool.noConfusion hcretired
  · rintro ⟨hcode, hwritten⟩
    exact ⟨hne, Or.inr ⟨hcode, Or.inl hwritten⟩⟩

/-- **What becomes of an alias that is added.** -/
theorem Withdrawn.isActive_new_iff (h : Withdrawn db a db') (hsystem : a.systemId = cx.system.id)
    (hpages : PagesIn cx db') (hgate : (qualityGate cx db').allowRetirement = true)
    {row' : IntentAlias} (hrow' : row' ∈ (compilePages cx db').db.intentAliases)
    (hkey : row'.assetKey = a.assetKey) (hactive : row'.isActive = true) :
    ((aliasSwitch now cx.snapshot.id).row (compileDecisions cx db').aliasIdsToDisable
        (compileDecisions cx db').aliasIdsToEnable row').isActive = true ↔
      ¬ (row'.checkAlias ≠ "" ∧ LosesWritten cx (a.assetKey, row'.checkAlias)) := by
  rw [isActive_row, mem_aliasIdsToDisable_iff hpages h.refs hrow', h.losesTarget_iff hsystem hkey]
  constructor
  · rintro ⟨hnot, -⟩ hlost
    exact hnot ⟨hactive, hgate, hlost⟩
  · exact fun hnot => ⟨fun hlost => hnot hlost.2.2, Or.inl hactive⟩

/-- An alias under the key after the compile: one that went down, or one that is added. -/
theorem Withdrawn.alias_cases (h : Withdrawn db a db') {row' : IntentAlias}
    (hrow' : row' ∈ (compilePages cx db').db.intentAliases) (hkey : row'.assetKey = a.assetKey) :
    (∃ row ∈ db.intentAliases, row.id = row'.id ∧ SameAlias row row' ∧ row'.isActive = false ∧
        isSystemDisabledAlias row' = true) ∨
      (∀ row ∈ db.intentAliases, row.id ≠ row'.id) ∧ row'.isActive = true ∧
        ∃ w ∈ checkWrites cx cx.pages, ∃ s ∈ [cx.system.code, cx.system.name],
          IsWantedAlias cx w s row' ∧ ∀ row ∈ db.intentAliases, ¬ IsWantedAlias cx w s row := by
  obtain ⟨H, hH, hinv⟩ := compilePages_inv cx db'
  rcases hinv.aliases.evolves.source row' hrow' with ⟨r, hr, hrid, hcore⟩ | ⟨hfresh, hnew⟩
  · have hsame := SameAlias.of_aliasCore hcore
    rcases h.aliases.source r hr with ⟨row, hrow, hid, hdown⟩ | ⟨-, hne⟩
    · have hrowkey : row.assetKey = a.assetKey :=
        (hdown.assetKey.symm.trans hsame.assetKey.symm).trans hkey
      have hsystem := congrArg isSystemDisabledAlias hcore
      refine Or.inl ⟨row, hrow, hid.trans hrid, hdown.toSameAlias.trans hsame, ?_, ?_⟩
      · exact (isActive_of_aliasCore hcore).trans (hdown.inactive hrowkey)
      · exact Eq.trans hsystem (hdown.disabled hrowkey)
    · exact absurd (hsame.assetKey.symm.trans hkey) hne
  · obtain ⟨w, hw, s, hs, hwanted, hnone⟩ := hnew.wanted
    rw [hH] at hw
    refine Or.inr ⟨fun row hrow hid => ?_, hnew.isActive, w, hw, s, hs, hwanted, fun row hrow => ?_⟩
    · obtain ⟨r, hr, hrid, -⟩ := h.aliases.kept row hrow
      exact hfresh r hr (hrid.trans hid)
    · obtain ⟨r, hr, -, hdown⟩ := h.aliases.kept row hrow
      rw [← hdown.toSameAlias.isWantedAlias_iff]
      exact hnone r hr

/-- An alias that went down, in the loop of the later compile. -/
theorem Withdrawn.exists_old (h : Withdrawn db a db') (cx : CompileContext) {row : IntentAlias}
    (hrow : row ∈ db.intentAliases) (hkey : row.assetKey = a.assetKey) :
    ∃ row' ∈ (compilePages cx db').db.intentAliases, row'.id = row.id ∧ SameAlias row row' ∧
      row'.isActive = false ∧ isSystemDisabledAlias row' = true := by
  obtain ⟨H, -, hinv⟩ := compilePages_inv cx db'
  obtain ⟨r, hr, hrid, hdown⟩ := h.aliases.kept row hrow
  obtain ⟨row', hrow', hid, hcore⟩ := hinv.aliases.evolves.kept r hr
  have hsystem := congrArg isSystemDisabledAlias hcore
  exact ⟨row', hrow', hid.trans hrid, hdown.toSameAlias.trans (SameAlias.of_aliasCore hcore),
    (isActive_of_aliasCore hcore).trans (hdown.inactive hkey),
    Eq.trans hsystem (hdown.disabled hkey)⟩

/-- The active aliases under the key after the later compile. -/
theorem mem_activeAliasIds_reconciledDb {assetKey : String} {id : UUID} :
    id ∈ activeAliasIds (reconciledDb cx service now db') assetKey ↔
      ∃ row' ∈ (compilePages cx db').db.intentAliases, row'.id = id ∧ row'.assetKey = assetKey ∧
        ((aliasSwitch now cx.snapshot.id).row (compileDecisions cx db').aliasIdsToDisable
          (compileDecisions cx db').aliasIdsToEnable row').isActive = true := by
  have hrow : ∀ row : IntentAlias,
      ((aliasSwitch now cx.snapshot.id).row (compileDecisions cx db').aliasIdsToDisable
        (compileDecisions cx db').aliasIdsToEnable row).assetKey = row.assetKey := by
    intro row
    unfold Switch.row
    split
    · rfl
    · split
      · rfl
      · rfl
  constructor
  · rintro ⟨row, hmem, hid, hkey, hactive⟩
    obtain ⟨row', hrow', rfl⟩ := mem_aliases_reconciledDb.mp hmem
    have hrowid : row'.id = id := Eq.trans (Switch.key_row row').symm hid
    exact ⟨row', hrow', hrowid, (hrow row').symm.trans hkey, hactive⟩
  · rintro ⟨row', hrow', hid, hkey, hactive⟩
    exact ⟨_, mem_aliases_reconciledDb.mpr ⟨row', hrow', rfl⟩,
      Eq.trans (Switch.key_row row') hid, (hrow row').trans hkey, hactive⟩

variable (service now) in
/-- **The aliases are where they were.** -/
theorem Withdrawn.aliases_iff (h : Withdrawn db a db') (hup : IsUp db a)
    (hsystem : a.systemId = cx.system.id) (hpages : PagesIn cx db')
    (hgate : (qualityGate cx db').allowRetirement = true) :
    activeAliasIds (reconciledDb cx service now db') a.assetKey = activeAliasIds db a.assetKey ↔
      (∀ row ∈ db.intentAliases, row.assetKey = a.assetKey →
        row.checkAlias ≠ "" ∧ ComesBack cx db a row.checkAlias) ∧
      ∀ w ∈ checkWrites cx cx.pages, assetKeyOf cx w.1 = a.assetKey →
        ∀ s ∈ [cx.system.code, cx.system.name],
          (∃ row ∈ db.intentAliases, IsWantedAlias cx w s row) ∨
            w.2.checkCode ≠ "" ∧ LosesWritten cx (a.assetKey, w.2.checkCode) := by
  rw [Set.ext_iff]
  constructor
  · intro hsame
    refine ⟨fun row hrow hkey => ?_, fun w hw hwkey s hs => ?_⟩
    · -- The alias was active, so it is active again.
      have hmem := (hsame row.id).mpr ⟨row, hrow, rfl, hkey, hup.aliases row hrow hkey⟩
      obtain ⟨r, hr, hrid, hrkey, hactive⟩ := mem_activeAliasIds_reconciledDb.mp hmem
      obtain ⟨row', hrow', hid, hcols, hinactive, hdisabled⟩ := h.exists_old cx hrow hkey
      rw [Table.eq_of_key_eq hr hrow' (hrid.trans hid.symm)] at hactive
      have hback := (h.isActive_old_iff hsystem hpages hgate hrow' (hcols.assetKey.trans hkey)
        hinactive hdisabled).mp hactive
      rw [hcols.checkAlias] at hback
      exact hback
    · obtain ⟨H, hH, hinv⟩ := compilePages_inv cx db'
      rw [← hH] at hw
      obtain ⟨row', hrow', hwanted⟩ := hinv.aliases.ensured w hw s hs
      obtain ⟨hrowkey, hcode⟩ := assetKey_of_isWantedAlias hwanted
      have hkey := hrowkey.trans hwkey
      rcases h.alias_cases hrow' hkey with ⟨row, hrow, -, hcols, -⟩ | ⟨hfresh, hactive, -⟩
      · exact Or.inl ⟨row, hrow, hcols.isWantedAlias_iff.mp hwanted⟩
      · -- The alias is new, so it cannot stay active.
        rw [← hcode]
        by_contra hnot
        rw [not_or] at hnot
        have hmem : row'.id ∈ activeAliasIds (reconciledDb cx service now db') a.assetKey :=
          mem_activeAliasIds_reconciledDb.mpr ⟨row', hrow', rfl, hkey,
            (h.isActive_new_iff hsystem hpages hgate hrow' hkey hactive).mpr hnot.2⟩
        obtain ⟨row, hrow, hid, -⟩ := (hsame row'.id).mp hmem
        exact hfresh row hrow hid
  · rintro ⟨haliases, hadded⟩ id
    constructor
    · intro hmem
      obtain ⟨row', hrow', hid, hkey, hactive'⟩ := mem_activeAliasIds_reconciledDb.mp hmem
      rcases h.alias_cases hrow' hkey with
        ⟨row, hrow, hrowid, hcols, -⟩ | ⟨-, hactive, w, hw, s, hs, hwanted, hnone⟩
      · have hrowkey : row.assetKey = a.assetKey := hcols.assetKey.symm.trans hkey
        exact ⟨row, hrow, hrowid.trans hid, hrowkey, hup.aliases row hrow hrowkey⟩
      · obtain ⟨hrowkey, hcode⟩ := assetKey_of_isWantedAlias hwanted
        rw [h.isActive_new_iff hsystem hpages hgate hrow' hkey hactive, hcode] at hactive'
        rcases hadded w hw (hrowkey.symm.trans hkey) s hs with ⟨row, hrow, hwant⟩ | hlost
        · exact absurd hwant (hnone row hrow)
        · exact absurd hlost hactive'
    · rintro ⟨row, hrow, rfl, hkey, -⟩
      obtain ⟨row', hrow', hid, hcols, hinactive, hdisabled⟩ := h.exists_old cx hrow hkey
      refine mem_activeAliasIds_reconciledDb.mpr
        ⟨row', hrow', hid, hcols.assetKey.trans hkey, ?_⟩
      rw [h.isActive_old_iff hsystem hpages hgate hrow' (hcols.assetKey.trans hkey) hinactive
        hdisabled, hcols.checkAlias]
      exact haliases row hrow hkey

/-! ## Jobs -/

/-- A job that went down is up again when its check comes back. -/
theorem Withdrawn.job_iff (h : Withdrawn db a db') (hsystem : a.systemId = cx.system.id)
    (hgate : (qualityGate cx db').allowRetirement = true) {c : PageCheck}
    (hc : c ∈ db.pageChecks) (hasset : c.pageAssetId = a.id) {job' : PublishedJob}
    (hjob' : job' ∈ db'.publishedJobs) (hcheck : job'.pageCheckId = c.id)
    (hpaused : job'.state = .paused) (hmarked : isSystemPausedJob job' = true)
    (hrefs : ReferencesHold db') (hpages : PagesIn cx db') :
    ((jobSwitch cx.snapshot.id).row (compileDecisions cx db').publishedJobIdsToPause
        (compileDecisions cx db').publishedJobIdsToResume job').state = .active ↔
      db.pageChecks.first? (checkSel (a.id, c.checkCode)) = some c ∧
        ComesBack cx db a c.checkCode := by
  obtain ⟨c', hc', hid, hdown⟩ := h.checks.kept c hc
  have hasset' : c'.pageAssetId = a.id := hdown.pageAssetId_eq.trans hasset
  have hsame : ∀ b ∈ (retirement cx db').db.publishedJobs, b.id = job'.id → b = job' := by
    intro b hb hbid
    rw [publishedJobs_retirement] at hb
    exact Table.eq_of_key_eq hb hjob' hbid
  have hpause : key job' ∉ (compileDecisions cx db').publishedJobIdsToPause := by
    intro hmem
    obtain ⟨b, hb, -, hactive, hbid⟩ := mem_publishedJobIdsToPause.mp hmem
    rw [hsame b hb hbid, hpaused] at hactive
    exact PublishedJobState.noConfusion hactive
  -- The job is resumed with its check.
  have hresume : key job' ∈ (compileDecisions cx db').publishedJobIdsToResume ↔
      ∃ b, Revives cx db' b c' := by
    rw [← isResumed_iff hpages hrefs hc']
    have hcid : job'.pageCheckId = c'.id := hcheck.trans (show c'.id = c.id from hid).symm
    constructor
    · intro hmem
      obtain ⟨b, hb, hresumed, -, -, hbid⟩ := mem_publishedJobIdsToResume.mp hmem
      rw [hsame b hb hbid, hcid] at hresumed
      exact hresumed
    · intro hresumed
      refine mem_publishedJobIdsToResume.mpr ⟨job', ?_, ?_, hpaused, hmarked, rfl⟩
      · rw [publishedJobs_retirement]
        exact hjob'
      · rw [hcid]
        exact hresumed
  -- The check found under its code is the same before and after.
  have hfirst : db'.pageChecks.first? (checkSel (a.id, c.checkCode)) = some c' ↔
      db.pageChecks.first? (checkSel (a.id, c.checkCode)) = some c := by
    constructor
    · intro hd'
      obtain ⟨d, hd, hdid, -⟩ := h.checks.exists_first?_before
        (fun _ _ => checkSel_eq_of_checkDown) (fun _ hne => checkSel_eq_false_of_ne hne _) hd'
      rw [hd, Table.eq_of_key_eq (Table.mem_of_first? hd) hc (hdid.symm.trans hid)]
    · intro hd
      obtain ⟨d', hd', hdid, -⟩ := h.checks.exists_first?
        (fun _ _ => checkSel_eq_of_checkDown) (fun _ hne => checkSel_eq_false_of_ne hne _) hd
      rw [hd', Table.eq_of_key_eq (Table.mem_of_first? hd') hc' (hdid.trans hid.symm)]
  have hrevives := h.revives_iff hsystem hgate hc' hasset'
  rw [hdown.checkCode, hfirst] at hrevives
  have hback : ComesBack cx db a c.checkCode ↔
      (∃ w, lastWrite cx (a.assetKey, c.checkCode) = some w) ∧
        ¬ LosesWritten cx (a.assetKey, c.checkCode) :=
    ⟨fun hback => ⟨hback.written, hback.kept⟩,
      fun hwrite => ⟨⟨c, hc, hasset, rfl⟩, hwrite.1, hwrite.2⟩⟩
  rw [hback, ← hrevives, ← hresume]
  by_cases hon : key job' ∈ (compileDecisions cx db').publishedJobIdsToResume
  · rw [Switch.row_of_on hpause hon]
    exact iff_of_true rfl hon
  · rw [Switch.row_of_notMem hpause hon, hpaused]
    exact iff_of_false PublishedJobState.noConfusion hon

variable (now) in
/-- **The jobs are where they were.** -/
theorem Withdrawn.jobs_iff (h : Withdrawn db a db') (hup : IsUp db a)
    (hsystem : a.systemId = cx.system.id) (hpages : PagesIn cx db')
    (hgate : (qualityGate cx db').allowRetirement = true) {jobs : PublishedJobService}
    (hservice : service.publishedJobService = some jobs) :
    (∀ c ∈ db.pageChecks, c.pageAssetId = a.id →
        activeJobIds (reconciledDb cx service now db') c.id = activeJobIds db c.id) ↔
      ∀ job ∈ db.publishedJobs, ∀ c ∈ db.pageChecks, c.id = job.pageCheckId →
        c.pageAssetId = a.id →
          db.pageChecks.first? (checkSel (a.id, c.checkCode)) = some c ∧
            ComesBack cx db a c.checkCode := by
  have hrow : ∀ job : PublishedJob,
      ((jobSwitch cx.snapshot.id).row (compileDecisions cx db').publishedJobIdsToPause
        (compileDecisions cx db').publishedJobIdsToResume job).pageCheckId = job.pageCheckId := by
    intro job
    unfold Switch.row
    split
    · rfl
    · split
      · rfl
      · rfl
  constructor
  · intro hsame job hjob c hc hid hasset
    have hactive := hup.jobs job hjob ⟨c, hc, hid, hasset⟩
    have hmem : job.id ∈ activeJobIds db c.id := ⟨job, hjob, rfl, hid.symm, hactive⟩
    rw [← hsame c hc hasset] at hmem
    obtain ⟨r, hr, hrid, -, hractive⟩ := hmem
    obtain ⟨job'', hjob'', rfl⟩ := (mem_jobs_reconciledDb hservice).mp hr
    obtain ⟨job', hjob', hjobid, hdown⟩ := h.jobs.kept job hjob
    have heq : job'' = job' := Table.eq_of_key_eq hjob'' hjob'
      ((Switch.key_row job'').symm.trans (Eq.trans hrid (show job'.id = job.id from hjobid).symm))
    rw [heq] at hractive
    exact (h.job_iff hsystem hgate hc hasset hjob' (hdown.pageCheckId.trans hid.symm)
      (hdown.paused ⟨c, hc, hid, hasset⟩) (hdown.marked ⟨c, hc, hid, hasset⟩) h.refs hpages).mp
      hractive
  · intro hjobs c hc hasset
    refine Set.ext fun id => ⟨?_, ?_⟩
    · rintro ⟨r, hr, rfl, hcheck, -⟩
      obtain ⟨job', hjob', rfl⟩ := (mem_jobs_reconciledDb hservice).mp hr
      rw [hrow] at hcheck
      rcases h.jobs.source job' hjob' with ⟨job, hjob, hid, hdown⟩ | ⟨-, hfalse⟩
      · have hjobcheck : job.pageCheckId = c.id := hdown.pageCheckId.symm.trans hcheck
        refine ⟨job, hjob, ?_, hjobcheck, hup.jobs job hjob ⟨c, hc, hjobcheck.symm, hasset⟩⟩
        exact hid.trans (Switch.key_row job').symm
      · exact hfalse.elim
    · rintro ⟨job, hjob, rfl, hcheck, -⟩
      have hours : IsJobOf db a.id job := ⟨c, hc, hcheck.symm, hasset⟩
      obtain ⟨job', hjob', hid, hdown⟩ := h.jobs.kept job hjob
      refine ⟨_, (mem_jobs_reconciledDb hservice).mpr ⟨job', hjob', rfl⟩,
        Eq.trans (Switch.key_row job') hid, (hrow job').trans (hdown.pageCheckId.trans hcheck), ?_⟩
      exact (h.job_iff hsystem hgate hc hasset hjob' (hdown.pageCheckId.trans hcheck)
        (hdown.paused hours) (hdown.marked hours) h.refs hpages).mpr
        (hjobs job hjob c hc hcheck.symm hasset)

/-- **What the later compile makes of the asset.** -/
theorem Withdrawn.roundTrip_iff (h : Withdrawn db a db') (hup : IsUp db a)
    (hsystem : a.systemId = cx.system.id) (hpages : PagesIn cx db')
    (hgate : (qualityGate cx db').allowRetirement = true) {jobs : PublishedJobService}
    (hservice : service.publishedJobService = some jobs) :
    RoundTrip db a (reconciledDb cx service now db') ↔ ReturnsWhole cx db a := by
  have haliases := h.aliases_iff service now hup hsystem hpages hgate
  have hjobs := h.jobs_iff now hup hsystem hpages hgate hservice
  constructor
  · intro htrip
    have hboth := haliases.mp htrip.aliases
    exact ⟨hboth.1, hboth.2, hjobs.mp htrip.jobs⟩
  · intro hwhole
    exact ⟨haliases.mpr ⟨hwhole.aliases, hwhole.added⟩, hjobs.mpr hwhole.jobs⟩

end Return

/-! ## Two snapshots -/

section Calls

open CurrentStateSwitch (outsideSwitch)

variable {db d : Db} {a : PageAsset}

theorem IsUp.of_outsideSwitch (h : IsUp db a) (hd : outsideSwitch d = outsideSwitch db) :
    IsUp d a := by
  have hsame : IsUp (outsideSwitch db) a := ⟨h.mem, h.active, h.checks, h.aliases, h.jobs⟩
  rw [← hd] at hsame
  exact ⟨hsame.mem, hsame.active, hsame.checks, hsame.aliases, hsame.jobs⟩

theorem KeysSound.of_outsideSwitch {systemId : UUID} (h : KeysSound systemId db)
    (hd : outsideSwitch d = outsideSwitch db) : KeysSound systemId d := by
  have hsame : KeysSound systemId (outsideSwitch db) := ⟨h.ne_empty, h.unique⟩
  rw [← hd] at hsame
  exact ⟨hsame.ne_empty, hsame.unique⟩

theorem Withdrawn.of_outsideSwitch {db₀ : Db} (h : Withdrawn db₀ a db)
    (hrefs : ReferencesHold d) (hd : outsideSwitch d = outsideSwitch db) : Withdrawn db₀ a d := by
  have hsame : Withdrawn db₀ a (outsideSwitch db) :=
    ⟨h.asset, ⟨h.keys.ne_empty, h.keys.unique⟩, ⟨h.refs.assets, h.refs.plans⟩, h.checks, h.aliases,
      h.jobs⟩
  rw [← hd] at hsame
  exact ⟨hsame.asset, h.keys.of_outsideSwitch hd, hrefs, hsame.checks, hsame.aliases, hsame.jobs⟩

theorem roundTrip_congr {db' : Db} (hd : outsideSwitch d = outsideSwitch db) :
    RoundTrip d a db' ↔ RoundTrip db a db' := by
  have hsame : ∀ x : Db, RoundTrip x a db' ↔ RoundTrip (outsideSwitch x) a db' :=
    fun _ => ⟨fun h => ⟨h.aliases, h.jobs⟩, fun h => ⟨h.aliases, h.jobs⟩⟩
  rw [hsame d, hd, ← hsame db]

theorem returnsWhole_congr {cx : CompileContext} (hd : outsideSwitch d = outsideSwitch db) :
    ReturnsWhole cx d a ↔ ReturnsWhole cx db a := by
  have hback : ∀ (x : Db) (code : String),
      ComesBack cx x a code ↔ ComesBack cx (outsideSwitch x) a code :=
    fun _ _ => ⟨fun h => ⟨h.had, h.written, h.kept⟩, fun h => ⟨h.had, h.written, h.kept⟩⟩
  have hsame : ∀ x : Db, ReturnsWhole cx x a ↔ ReturnsWhole cx (outsideSwitch x) a := by
    intro x
    constructor
    · intro h
      exact ⟨fun row hrow hkey => (h.aliases row hrow hkey).imp_right (hback x _).mp, h.added,
        fun job hjob c hc hid hasset => (h.jobs job hjob c hc hid hasset).imp_right (hback x _).mp⟩
    · intro h
      exact ⟨fun row hrow hkey => (h.aliases row hrow hkey).imp_right (hback x _).mpr, h.added,
        fun job hjob c hc hid hasset =>
          (h.jobs job hjob c hc hid hasset).imp_right (hback x _).mpr⟩
  rw [hsame d, hd, ← hsame db]

/-- The snapshot shows the page of the asset again, with the title, the menus and the elements it
had. -/
def IsShownAgain (cx : CompileContext) (db : Db) (a : PageAsset) : Prop :=
  ∃ before ∈ db.pages, before.id = a.pageId ∧
    ∃ snapshot ∈ db.crawlSnapshots, before.snapshotId = some snapshot.id ∧
      ∃ page ∈ cx.pages, assetKeyOf cx page = a.assetKey ∧ pagePayload cx page =
        pagePayload (compileContext cx.ids cx.now cx.system snapshot db) before

/-- What is compiled passes the gate, and its cascades are applied. -/
structure IsApplied (call : ReconcileCall) (db : Db) (cx : CompileContext) (d : Db) : Prop where
  compiled : call.toCompileCall.promotedContext db = some (cx, d)
  gate : (qualityGate cx d).allowRetirement = true
  service : call.service.publishedJobService.isSome = true

/-- An asset is up; a snapshot without its page is compiled, and then another one, which may show
the page as it was (`IsShownAgain`) or not. -/
structure GoesAndReturns (db : Db) (a : PageAsset) (out back : ReconcileCall)
    (cx cx' : CompileContext) (d d' : Db) : Prop where
  keys : KeysSound a.systemId db
  refs : ReferencesHold db
  up : IsUp db a
  out_applied : IsApplied out db cx d
  out_system : cx.system.id = a.systemId
  gone : IsWithout cx d a
  back_applied : IsApplied back (reconcile db out) cx' d'
  back_system : cx'.system.id = a.systemId

/-- **When a page that goes and comes back leaves no trace**: exactly when every alias and every
job is for a check that comes back, and the later compile adds no alias. -/
theorem round_trip_iff {out back : ReconcileCall} {cx cx' : CompileContext} {d' : Db}
    (h : GoesAndReturns db a out back cx cx' d d') :
    RoundTrip db a (reconcile (reconcile db out) back) ↔ ReturnsWhole cx' db a := by
  obtain ⟨jobs, hjobs⟩ := Option.isSome_iff_exists.mp h.out_applied.service
  obtain ⟨jobs', hjobs'⟩ := Option.isSome_iff_exists.mp h.back_applied.service
  obtain ⟨s, system, switched, -, -, hswitch, -, rfl, rfl⟩ :=
    out.toCompileCall.promotedContext_cases h.out_applied.compiled
  have houtside := hswitch.outsideSwitch_eq hswitch.db_mem
  have hup := h.up.of_outsideSwitch houtside
  have hdown := withdrawn_reconciledDb out.service out.cascadedAt hup
    h.out_system.symm (h.keys.of_outsideSwitch houtside) (h.refs.switch hswitch) h.gone
    (pagesIn_compileContext out.ids out.now system s) h.out_applied.gate hjobs
  rw [← reconcile_of_promotedContext h.out_applied.compiled] at hdown
  rw [reconcile_of_promotedContext h.back_applied.compiled]
  obtain ⟨s', system', switched', -, -, hswitch', -, hcx, rfl⟩ :=
    back.toCompileCall.promotedContext_cases h.back_applied.compiled
  have hdown' := hdown.of_outsideSwitch (hdown.refs.switch hswitch')
    (hswitch'.outsideSwitch_eq hswitch'.db_mem)
  have hpages : PagesIn cx' switched'.db := by
    rw [hcx]
    exact pagesIn_compileContext back.ids back.now system' s'
  rw [← roundTrip_congr houtside, ← returnsWhole_congr houtside]
  exact hdown'.roundTrip_iff hup h.back_system.symm hpages h.back_applied.gate hjobs'

end Calls

/-! ## An alias for something that is no check -/

namespace RoundTripSample

def snapshot (id : UUID) (state : SnapshotState) : CrawlSnapshot where
  id := id
  systemId := 1
  crawlType := "full"
  qualityScore := some 1
  state := state
  startedAt := 0

def page (id snapshotId : UUID) (routePath : String) : Page where
  id := id
  systemId := 1
  snapshotId := some snapshotId
  routePath := routePath

def asset : PageAsset where
  id := 30
  systemId := 1
  pageId := 21
  assetKey := "erp.b"
  assetVersion := "v"

def check : PageCheck where
  id := 40
  pageAssetId := 30
  checkCode := "page_open"
  goal := "page_open"

/-- The alias names a report of the page, not a check. -/
def row : IntentAlias where
  id := 50
  systemAlias := "erp"
  pageAlias := some "/b"
  checkAlias := "monthly_report"
  routeHint := some "/b"
  assetKey := "erp.b"
  source := "manual"

/-- The page `/b` of the active snapshot is missing from the first draft, and back in the second. -/
def db : Db :=
  { systems := .single { id := 1, code := "erp", name := "ERP", baseUrl := "/" }
    crawlSnapshots := ⟨[snapshot 10 .active, snapshot 11 .draft, snapshot 12 .draft], by decide⟩
    pages := ⟨[page 20 10 "/a", page 21 10 "/b", page 22 11 "/a", page 23 12 "/a",
      page 24 12 "/b"], by decide⟩
    pageAssets := .single asset
    pageChecks := .single check
    intentAliases := .single row }

def service : ControlPlaneService where
  publishedJobService := some ⟨fun _ => true⟩

def out : ReconcileCall := ⟨⟨.ascending, 1, 11⟩, service, 1⟩

def back : ReconcileCall := ⟨⟨.ascending, 2, 12⟩, service, 2⟩

/-- What is compiled when the page is gone. -/
def gone : CompileContext × Db :=
  (out.toCompileCall.promotedContext db).get (by decide +kernel)

/-- What is compiled when the page is back. -/
def returned : CompileContext × Db :=
  (back.toCompileCall.promotedContext (reconcile db out)).get (by decide +kernel)

theorem keysSound : KeysSound 1 db := ⟨by decide, by decide⟩

theorem isUp : IsUp db asset :=
  ⟨List.mem_singleton.mpr rfl, rfl, by decide, by decide, fun _ hjob => absurd hjob
    (Table.notMem_empty _)⟩

theorem referencesHold : ReferencesHold db := by
  refine ⟨fun c hc => ⟨asset, List.mem_singleton.mpr rfl, ?_⟩, fun c hc id hid => ?_⟩
  · rw [List.mem_singleton.mp hc]
    rfl
  · rw [List.mem_singleton.mp hc] at hid
    exact absurd hid.symm (Option.some_ne_none id)

/-- A page without menus and elements is known by its own columns. -/
theorem pagePayload_congr {cx cx' : CompileContext} {p q : Page} (hmenus : cx.menus = [])
    (helements : cx.elements = []) (hmenus' : cx'.menus = []) (helements' : cx'.elements = [])
    (hroute : p.routePath = q.routePath) (htitle : p.pageTitle = q.pageTitle)
    (hsummary : p.pageSummary = q.pageSummary) : pagePayload cx p = pagePayload cx' q := by
  unfold pagePayload normalizedElements menusOfPage elementsOfPage
  simp only [hmenus, hmenus', helements, helements', hroute, htitle, hsummary, List.filter_nil,
    List.map_nil]

theorem isShownAgain : IsShownAgain returned.1 db asset := by
  have hback : ∃ p ∈ returned.1.pages, assetKeyOf returned.1 p = asset.assetKey ∧
      p.routePath = "/b" ∧ p.pageTitle = none ∧ p.pageSummary = none := by
    decide +kernel
  obtain ⟨p, hp, hkey, hroute, htitle, hsummary⟩ := hback
  refine ⟨page 21 10 "/b", List.mem_cons_of_mem _ List.mem_cons_self, rfl, snapshot 10 .active,
    List.mem_cons_self, rfl, p, hp, hkey, ?_⟩
  exact pagePayload_congr (List.eq_nil_of_length_eq_zero (by decide +kernel))
    (List.eq_nil_of_length_eq_zero (by decide +kernel)) rfl rfl hroute htitle hsummary

theorem goesAndReturns :
    GoesAndReturns db asset out back gone.1 returned.1 gone.2 returned.2 where
  keys := keysSound
  refs := referencesHold
  up := isUp
  out_applied := ⟨(Option.some_get _).symm, by decide +kernel, rfl⟩
  out_system := by decide +kernel
  gone := ⟨by decide +kernel, by decide +kernel, by decide +kernel⟩
  back_applied := ⟨(Option.some_get _).symm, by decide +kernel, rfl⟩
  back_system := by decide +kernel

end RoundTripSample

theorem round_trip_iff_sample :
    GoesAndReturns RoundTripSample.db RoundTripSample.asset RoundTripSample.out
        RoundTripSample.back RoundTripSample.gone.1 RoundTripSample.returned.1
        RoundTripSample.gone.2 RoundTripSample.returned.2 ∧
      IsShownAgain RoundTripSample.returned.1 RoundTripSample.db RoundTripSample.asset ∧
      (RoundTrip RoundTripSample.db RoundTripSample.asset
          (reconcile (reconcile RoundTripSample.db RoundTripSample.out) RoundTripSample.back) ↔
        ReturnsWhole RoundTripSample.returned.1 RoundTripSample.db RoundTripSample.asset) :=
  ⟨RoundTripSample.goesAndReturns, RoundTripSample.isShownAgain,
    round_trip_iff RoundTripSample.goesAndReturns⟩

/-- The alias that names no check is disabled with the page, and stays so when the page is back. -/
theorem round_trip_fails :
    ¬ ∀ (db : Db) (a : PageAsset) (out back : ReconcileCall) (cx cx' : CompileContext) (d d' : Db),
      GoesAndReturns db a out back cx cx' d d' → IsShownAgain cx' db a →
        RoundTrip db a (reconcile (reconcile db out) back) := by
  intro h
  have htrip := h _ _ _ _ _ _ _ _ RoundTripSample.goesAndReturns RoundTripSample.isShownAgain
  have hmem : (50 : UUID) ∈ activeAliasIds RoundTripSample.db RoundTripSample.asset.assetKey :=
    ⟨RoundTripSample.row, List.mem_singleton.mpr rfl, rfl, rfl, rfl⟩
  rw [← htrip.aliases] at hmem
  obtain ⟨row, hrow, hid, -, hactive⟩ := hmem
  have hdisabled : ∀ row ∈ (reconcile (reconcile RoundTripSample.db RoundTripSample.out)
      RoundTripSample.back).intentAliases, row.id = 50 → row.isActive = false := by
    decide +kernel
  rw [hdisabled row hrow hid] at hactive
  exact Bool.false_ne_true hactive

end ControlPlane

end Runlet
