import Runlet.AssetCompiler.Fingerprints
import Runlet.Library.JsonReading
import Runlet.Library.StableSort

/-!
# Fingerprints and the order of the rows

The rows of a page are loaded in an order that depends on their random keys.  A fingerprint sorts
them before it hashes them: the menus by all their columns, the elements by some of theirs.  So
elements that agree in the columns they are sorted by stay in the order in which they were loaded,
and the other columns show it.  `fingerprint_order_iff` says that nothing else does.
-/

namespace Runlet

namespace Fingerprints

open Json

/-- What the hashes show of an element. -/
structure ElementContent where
  elementType : String
  elementRole : String
  elementText : String
  playwrightLocator : String
  stateSignature : String
  usageDescription : String
  attributes : String
  locatorBundleSummary : String
  deriving DecidableEq

def CleanElement.content (e : CleanElement) : ElementContent where
  elementType := e.elementType
  elementRole := e.elementRole
  elementText := e.elementText
  playwrightLocator := e.playwrightLocator
  stateSignature := e.stateSignature
  usageDescription := e.usageDescription
  attributes := dumps false (.obj e.attributes)
  locatorBundleSummary := dumps false e.locatorBundleSummary

/-- Elements that agree in type, role, text, state and the hash of their locators also agree in
recorded locator, usage, attributes and locators. -/
def TiedElementsAgree (elements : List NormalizedElement) : Prop :=
  ∀ a ∈ elements, ∀ b ∈ elements, (cleanElement a).sortKey = (cleanElement b).sortKey →
    (cleanElement a).content = (cleanElement b).content

/-! ## The hashes are hashes of contents -/

section Content

variable {e e' : CleanElement}

/-- The entries under which the columns of an element enter a hash. -/
theorem serializeEntries_congr (h : e.content = e'.content) :
    serialize "" false (.str e.elementType) = serialize "" false (.str e'.elementType) ∧
      serialize "" false (.str e.elementRole) = serialize "" false (.str e'.elementRole) ∧
      serialize "" false (.str e.elementText) = serialize "" false (.str e'.elementText) ∧
      serialize "" false (.str e.playwrightLocator) =
        serialize "" false (.str e'.playwrightLocator) ∧
      serialize "" false (.str e.stateSignature) = serialize "" false (.str e'.stateSignature) ∧
      serialize "" false (.str e.usageDescription) =
        serialize "" false (.str e'.usageDescription) ∧
      serialize "" false (.obj e.attributes) = serialize "" false (.obj e'.attributes) ∧
      serialize "" false e.locatorBundleSummary = serialize "" false e'.locatorBundleSummary := by
  obtain ⟨htype, hrole, htext, hlocator, hstate, husage, hattributes, hsummary⟩ :=
    ElementContent.mk.inj h
  exact ⟨htype ▸ rfl, hrole ▸ rfl, htext ▸ rfl, hlocator ▸ rfl, hstate ▸ rfl, husage ▸ rfl,
    hattributes, hsummary⟩

theorem serialize_json_congr (h : e.content = e'.content) :
    serialize "" false e.json = serialize "" false e'.json := by
  obtain ⟨htype, hrole, htext, hlocator, hstate, husage, hattributes, hsummary⟩ :=
    serializeEntries_congr h
  refine serialize_obj_congr ?_
  simp only [serializeEntries]
  rw [htype, hrole, htext, hlocator, hstate, husage, hattributes, hsummary]

theorem serialize_legacyJson_congr (h : e.content = e'.content) :
    serialize "" false e.legacyJson = serialize "" false e'.legacyJson := by
  obtain ⟨htype, hrole, htext, hlocator, -, husage, hattributes, -⟩ := serializeEntries_congr h
  refine serialize_obj_congr ?_
  simp only [serializeEntries]
  rw [htype, hrole, htext, hlocator, husage, hattributes]

theorem serialize_keyLocatorJson_congr (h : e.content = e'.content) :
    serialize "" false e.keyLocatorJson = serialize "" false e'.keyLocatorJson := by
  obtain ⟨htype, hrole, -, -, hstate, -, hattributes, hsummary⟩ := serializeEntries_congr h
  refine serialize_obj_congr ?_
  simp only [serializeEntries]
  rw [htype, hrole, hstate, hattributes, hsummary]

theorem serialize_legacyKeyLocatorJson_congr (h : e.content = e'.content) :
    serialize "" false e.legacyKeyLocatorJson = serialize "" false e'.legacyKeyLocatorJson := by
  obtain ⟨htype, hrole, -, hlocator, -, -, hattributes, -⟩ := serializeEntries_congr h
  refine serialize_obj_congr ?_
  simp only [serializeEntries]
  rw [htype, hrole, hlocator, hattributes]

/-- An array of what is determined by the contents. -/
theorem serialize_arr_of_content {l l' : List CleanElement}
    (h : l.map CleanElement.content = l'.map CleanElement.content) {f : CleanElement → Json}
    (hf : ∀ {e e' : CleanElement}, e.content = e'.content →
      serialize "" false (f e) = serialize "" false (f e')) :
    serialize "" false (.arr (l.map f)) = serialize "" false (.arr (l'.map f)) := by
  refine serialize_arr_congr ?_
  rw [List.map_map, List.map_map]
  exact StableSort.map_congr_of_map_eq h fun _ _ _ _ => hf

/-- The older form of the elements, sorted by columns that are part of the content. -/
theorem map_content_legacyElementsProjection {l l' : List CleanElement}
    (h : l.map CleanElement.content = l'.map CleanElement.content) :
    (legacyElementsProjection l).map CleanElement.content =
      (legacyElementsProjection l').map CleanElement.content := by
  let legacyKey : ElementContent → List String := fun c =>
    [c.elementType, c.elementRole, c.elementText, c.playwrightLocator]
  have hmap : ∀ l : List CleanElement, (legacyElementsProjection l).map CleanElement.content =
      (l.map CleanElement.content).insertionSort fun c c' => legacyKey c ≤ legacyKey c' :=
    fun l => List.map_insertionSort _ _ _ _ fun _ _ _ _ => Iff.rfl
  rw [hmap, hmap, h]

end Content

/-! ## Sorting the rows -/

theorem sortKey_injective {m m' : CleanMenu} (h : m.sortKey = m'.sortKey) : m = m' := by
  obtain ⟨hdepth, hrest⟩ := Prod.mk.inj (toLex_inj.mp h)
  obtain ⟨hsort, hrest⟩ := Prod.mk.inj (toLex_inj.mp hrest)
  obtain ⟨hlabel, hroute⟩ := Prod.mk.inj (toLex_inj.mp hrest)
  cases m
  cases m'
  exact CleanMenu.mk.injEq .. ▸ ⟨hlabel, hroute, hdepth, hsort⟩

/-- The menus are sorted by all their columns. -/
theorem normalizeMenus_of_perm {menus menus' : List MenuPayload} (h : menus.Perm menus') :
    normalizeMenus menus = normalizeMenus menus' := by
  rw [← List.map_id (normalizeMenus menus), ← List.map_id (normalizeMenus menus')]
  exact StableSort.map_insertionSort_of_perm (h.map _) fun _ _ _ _ => sortKey_injective

theorem normalizeElements_eq (elements : List NormalizedElement) :
    normalizeElements elements = (elements.insertionSort fun a b =>
      (cleanElement a).sortKey ≤ (cleanElement b).sortKey).map cleanElement :=
  (List.map_insertionSort (fun a b => (cleanElement a).sortKey ≤ (cleanElement b).sortKey)
    (fun a b : CleanElement => a.sortKey ≤ b.sortKey) cleanElement elements
    fun _ _ _ _ => Iff.rfl).symm

/-- The elements are sorted by some of theirs. -/
theorem map_content_normalizeElements_iff {elements : List NormalizedElement} :
    (∀ l₁ l₂ : List NormalizedElement, l₁.Perm elements → l₂.Perm elements →
        (normalizeElements l₁).map CleanElement.content =
          (normalizeElements l₂).map CleanElement.content) ↔
      TiedElementsAgree elements := by
  simp only [normalizeElements_eq, List.map_map]
  exact @StableSort.map_insertionSort_perm_iff _ _ _ _
    (fun e : NormalizedElement => (cleanElement e).sortKey) _ (CleanElement.content ∘ cleanElement) _

/-! ## Fingerprints -/

/-- A page with its rows in another order. -/
def reordered (p : PagePayload) (menus : List MenuPayload) (elements : List NormalizedElement) :
    PagePayload :=
  { p with menus := menus, elements := elements }

/-- What the structure hash is taken of. -/
def structureJson (p : PagePayload) : Json :=
  .obj
    [("page", pageJson p), ("menus", .arr ((normalizeMenus p.menus).map CleanMenu.json)),
      ("elements", .arr ((normalizeElements p.elements).map CleanElement.json))]

theorem structureHash_eq (p : PagePayload) :
    (buildPageFingerprint p).structureHash = Sha256.hexdigest (dumps false (structureJson p)) :=
  rfl

/-- The structure text is determined by the sorted menus and the contents of the sorted elements. -/
theorem dumps_structureJson_congr (p : PagePayload) {menus₁ menus₂ : List MenuPayload}
    {elements₁ elements₂ : List NormalizedElement}
    (hmenus : normalizeMenus menus₁ = normalizeMenus menus₂)
    (helements : (normalizeElements elements₁).map CleanElement.content =
      (normalizeElements elements₂).map CleanElement.content) :
    dumps false (structureJson (reordered p menus₁ elements₁)) =
      dumps false (structureJson (reordered p menus₂ elements₂)) := by
  refine serialize_obj_congr ?_
  simp only [serializeEntries, reordered]
  rw [hmenus, serialize_arr_of_content helements serialize_json_congr]
  rfl

/-- So is the fingerprint. -/
theorem buildPageFingerprint_congr (p : PagePayload) {menus₁ menus₂ : List MenuPayload}
    {elements₁ elements₂ : List NormalizedElement}
    (hmenus : normalizeMenus menus₁ = normalizeMenus menus₂)
    (helements : (normalizeElements elements₁).map CleanElement.content =
      (normalizeElements elements₂).map CleanElement.content) :
    buildPageFingerprint (reordered p menus₁ elements₁) =
      buildPageFingerprint (reordered p menus₂ elements₂) := by
  have hlegacy := map_content_legacyElementsProjection helements
  have husage : (normalizeElements elements₁).map (fun e => Json.str e.usageDescription) =
      (normalizeElements elements₂).map fun e => Json.str e.usageDescription :=
    StableSort.map_congr_of_map_eq helements fun _ _ _ _ h =>
      congrArg (fun c => Json.str c.usageDescription) h
  have htexts : (normalizeElements elements₁).map (fun e => Json.str e.elementText) =
      (normalizeElements elements₂).map fun e => Json.str e.elementText :=
    StableSort.map_congr_of_map_eq helements fun _ _ _ _ h =>
      congrArg (fun c => Json.str c.elementText) h
  have hkey := serialize_arr_of_content helements serialize_keyLocatorJson_congr
  have hlegacyKey := serialize_arr_of_content hlegacy serialize_legacyKeyLocatorJson_congr
  have hstructure := dumps_structureJson_congr p hmenus helements
  have hlegacyStructure : dumps false (.obj [("page", pageJson p),
        ("menus", .arr ((normalizeMenus menus₁).map CleanMenu.json)),
        ("elements", .arr ((legacyElementsProjection (normalizeElements elements₁)).map
          CleanElement.legacyJson))]) =
      dumps false (.obj [("page", pageJson p),
        ("menus", .arr ((normalizeMenus menus₂).map CleanMenu.json)),
        ("elements", .arr ((legacyElementsProjection (normalizeElements elements₂)).map
          CleanElement.legacyJson))]) := by
    refine serialize_obj_congr ?_
    simp only [serializeEntries]
    rw [hmenus, serialize_arr_of_content hlegacy serialize_legacyJson_congr]
  refine PageFingerprint.mk.injEq .. ▸ ⟨?_, ?_, ?_, ?_, ?_, ?_⟩
  · simp only [reordered, hmenus]
  · exact congrArg Sha256.hexdigest hkey
  · simp only [reordered, husage, htexts]
  · exact congrArg Sha256.hexdigest hstructure
  · exact congrArg Sha256.hexdigest hlegacyKey
  · exact congrArg Sha256.hexdigest hlegacyStructure

/-! ## The structure hash shows the contents -/

theorem blank_plain : ∀ c ∈ "".toList, PlainChar c :=
  Text.forall_mem_toList (by decide)

/-- The columns of an element that hold a JSON value are objects with plain numbers. -/
structure PlainElement (e : CleanElement) : Prop where
  attributes : PlainEntries e.attributes
  locatorBundleSummary : ∃ l, e.locatorBundleSummary = .obj l ∧ PlainEntries l

theorem plainList_map_str {α : Type} (f : α → String) (l : List α) :
    PlainList (l.map fun a => Json.str (f a)) := by
  induction l with
  | nil => trivial
  | cons a l ih => exact ⟨trivial, ih⟩

theorem plainElement_cleanElement {e : NormalizedElement} (h : PlainEntries e.attributes) :
    PlainElement (cleanElement e) where
  attributes := h
  locatorBundleSummary :=
    ⟨_, rfl, trivial, plainList_map_str _ _, plainList_map_str _ _, trivial⟩

theorem PlainElement.json {e : CleanElement} (h : PlainElement e) : Plain e.json := by
  obtain ⟨l, hl, hplain⟩ := h.locatorBundleSummary
  refine ⟨trivial, trivial, trivial, trivial, trivial, trivial, h.attributes, ?_, trivial⟩
  rw [hl]
  exact hplain

theorem PlainElement.closed_entries {e : CleanElement} (h : PlainElement e) {l : List (String × Json)}
    (hl : e.json = .obj l) : ∀ entry ∈ serializeEntries "" false l, Closed entry.2.toList := by
  obtain ⟨summary, hsummary, hplain⟩ := h.locatorBundleSummary
  obtain rfl := Json.obj.inj hl
  intro entry hentry
  simp only [serializeEntries, List.mem_cons, List.not_mem_nil, or_false] at hentry
  rcases hentry with rfl | rfl | rfl | rfl | rfl | rfl | rfl | rfl
  · exact closed_dumpsText false _
  · exact closed_dumpsText false _
  · exact closed_dumpsText false _
  · exact closed_dumpsText false _
  · exact closed_dumpsText false _
  · exact closed_dumpsText false _
  · exact closed_serialize_obj blank_plain false h.attributes
  · rw [hsummary]
    exact closed_serialize_obj blank_plain false hplain

/-- The serialized element shows its content. -/
theorem content_of_serialize_json {e e' : CleanElement} (he : PlainElement e)
    (he' : PlainElement e') (h : serialize "" false e.json = serialize "" false e'.json) :
    e.content = e'.content := by
  have hperm := perm_of_serialize_obj (he.closed_entries rfl) (he'.closed_entries rfl) h
  have hsubset := hperm.subset
  simp only [serializeEntries, List.cons_subset, List.mem_cons, Prod.mk.injEq, String.reduceEq,
    false_and, true_and, false_or, or_false, List.not_mem_nil, List.nil_subset, and_true] at hsubset
  obtain ⟨htype, hrole, htext, hlocator, hstate, husage, hattributes, hsummary⟩ := hsubset
  exact ElementContent.mk.injEq .. ▸ ⟨dumpsText_injective htype, dumpsText_injective hrole,
    dumpsText_injective htext, dumpsText_injective hlocator, dumpsText_injective hstate,
    dumpsText_injective husage, hattributes, hsummary⟩

theorem plainList_map {α : Type} {f : α → Json} {l : List α} (h : ∀ a ∈ l, Plain (f a)) :
    PlainList (l.map f) := by
  induction l with
  | nil => trivial
  | cons a l ih =>
    exact ⟨h a List.mem_cons_self, ih fun b hb => h b (List.mem_cons_of_mem _ hb)⟩

theorem mem_normalizeElements {elements : List NormalizedElement} {c : CleanElement} :
    c ∈ normalizeElements elements ↔ ∃ e ∈ elements, cleanElement e = c := by
  unfold normalizeElements
  rw [List.mem_insertionSort, List.mem_map]

/-- Pages with plain numbers and the same structure text have elements with the same contents. -/
theorem map_content_of_structure {p p' : PagePayload}
    (hp : ∀ e ∈ p.elements, PlainEntries e.attributes)
    (hp' : ∀ e ∈ p'.elements, PlainEntries e.attributes)
    (h : dumps false (structureJson p) = dumps false (structureJson p')) :
    (normalizeElements p.elements).map CleanElement.content =
      (normalizeElements p'.elements).map CleanElement.content := by
  have hplain : ∀ {p : PagePayload}, (∀ e ∈ p.elements, PlainEntries e.attributes) →
      ∀ c ∈ normalizeElements p.elements, PlainElement c := by
    intro p hp c hc
    obtain ⟨e, he, rfl⟩ := mem_normalizeElements.mp hc
    exact plainElement_cleanElement (hp e he)
  have hclosed : ∀ {p : PagePayload}, (∀ e ∈ p.elements, PlainEntries e.attributes) →
      ∀ {l : List (String × Json)}, structureJson p = .obj l →
        ∀ entry ∈ serializeEntries "" false l, Closed entry.2.toList := by
    intro p hp l hl entry hentry
    obtain rfl := Json.obj.inj hl
    simp only [serializeEntries, List.mem_cons, List.not_mem_nil, or_false] at hentry
    rcases hentry with rfl | rfl | rfl
    · exact closed_serialize_obj blank_plain false ⟨trivial, trivial, trivial, trivial⟩
    · exact closed_serialize_arr blank_plain false
        (plainList_map fun m _ => ⟨trivial, trivial, trivial, trivial, trivial⟩)
    · exact closed_serialize_arr blank_plain false
        (plainList_map fun c hc => (hplain hp c hc).json)
  have hsubset := (perm_of_serialize_obj (hclosed hp rfl) (hclosed hp' rfl) h).subset
  simp only [serializeEntries, List.cons_subset, List.mem_cons, Prod.mk.injEq, String.reduceEq,
    false_and, true_and, false_or, or_false, List.not_mem_nil, List.nil_subset, and_true] at hsubset
  obtain ⟨-, -, helements⟩ := hsubset
  have hitems : ∀ {p : PagePayload}, (∀ e ∈ p.elements, PlainEntries e.attributes) →
      ∀ s ∈ serializeList "" false ((normalizeElements p.elements).map CleanElement.json),
        Closed s.toList := by
    intro p hp s hs
    rw [serializeList_eq_map, List.map_map] at hs
    obtain ⟨c, hc, rfl⟩ := List.mem_map.mp hs
    exact closed_serialize_obj blank_plain false (hplain hp c hc).json
  have hlists := serializeList_of_serialize_arr false (hitems hp) (hitems hp') helements
  rw [serializeList_eq_map, serializeList_eq_map, List.map_map, List.map_map] at hlists
  exact StableSort.map_congr_of_map_eq hlists fun c hc c' hc' =>
    content_of_serialize_json (hplain hp c hc) (hplain hp' c' hc')

/-! ## The order of the rows -/

/-- However the rows of the page are ordered, its fingerprint is the same, and a compile that finds
them in another order than the last one reports no drift. -/
def OrderInvisible (p : PagePayload) : Prop :=
  ∀ menus₁ menus₂ elements₁ elements₂, menus₁.Perm p.menus → menus₂.Perm p.menus →
    elements₁.Perm p.elements → elements₂.Perm p.elements →
      buildPageFingerprint (reordered p menus₁ elements₁) =
          buildPageFingerprint (reordered p menus₂ elements₂) ∧
        (compareFingerprints
          (some (PageFingerprint.stored (buildPageFingerprint (reordered p menus₁ elements₁))))
          (buildPageFingerprint (reordered p menus₂ elements₂))).status = .safe

/-- The structure texts of a page, for the orders of its elements, have different digests where they
are different. -/
def NoCollision (p : PagePayload) : Prop :=
  ∀ elements₁ elements₂, elements₁.Perm p.elements → elements₂.Perm p.elements →
    Sha256.hexdigest (dumps false (structureJson (reordered p p.menus elements₁))) =
        Sha256.hexdigest (dumps false (structureJson (reordered p p.menus elements₂))) →
      dumps false (structureJson (reordered p p.menus elements₁)) =
        dumps false (structureJson (reordered p p.menus elements₂))

/-- Where tied elements agree, the order of the rows is invisible. -/
theorem orderInvisible_of_tiedElementsAgree {p : PagePayload} (h : TiedElementsAgree p.elements) :
    OrderInvisible p := by
  intro menus₁ menus₂ elements₁ elements₂ hmenus₁ hmenus₂ helements₁ helements₂
  have heq := buildPageFingerprint_congr p (normalizeMenus_of_perm (hmenus₁.trans hmenus₂.symm))
    (map_content_normalizeElements_iff.mpr h elements₁ elements₂ helements₁ helements₂)
  refine ⟨heq, ?_⟩
  rw [heq, compareFingerprints_stored]

/-- **The order of the rows of a page is invisible exactly when its tied elements agree.** -/
theorem fingerprint_order_iff (p : PagePayload) (hplain : ∀ e ∈ p.elements, PlainEntries e.attributes)
    (hcollision : NoCollision p) : OrderInvisible p ↔ TiedElementsAgree p.elements := by
  refine ⟨fun hsame => ?_, orderInvisible_of_tiedElementsAgree⟩
  refine map_content_normalizeElements_iff.mp fun l₁ l₂ h₁ h₂ => ?_
  obtain ⟨heq, -⟩ := hsame p.menus p.menus l₁ l₂ (List.Perm.refl _) (List.Perm.refl _) h₁ h₂
  have hhash := congrArg PageFingerprint.structureHash heq
  rw [structureHash_eq, structureHash_eq] at hhash
  exact map_content_of_structure (fun e he => hplain e (h₁.mem_iff.mp he))
    (fun e he => hplain e (h₂.mem_iff.mp he)) (hcollision l₁ l₂ h₁ h₂ hhash)

/-- Pages whose tied elements agree have one structure text for all orders. -/
theorem noCollision_of_tiedElementsAgree {p : PagePayload} (h : TiedElementsAgree p.elements) :
    NoCollision p := by
  intro elements₁ elements₂ h₁ h₂ _
  exact dumps_structureJson_congr p rfl
    (map_content_normalizeElements_iff.mpr h elements₁ elements₂ h₁ h₂)

/-! ## Buttons that tie -/

namespace RowOrderSample

/-- A button without a recorded locator. -/
def button (elementText usageDescription materializedBy : String) : NormalizedElement where
  elementType := "button"
  elementRole := "button"
  elementText := elementText
  attributes := []
  playwrightLocator := ""
  usageDescription := usageDescription
  stateSignature := "a:default"
  stateContext := []
  locatorCandidates := []
  materializedBy := materializedBy
  navigationDiagnostics := []
  locatorBundle := ⟨[]⟩

def page (elements : List NormalizedElement) : PagePayload where
  routePath := "/a"
  pageTitle := none
  pageSummary := none
  menus := []
  elements := elements

/-- Two rows of one button, which tie and are found in different ways, and another button. -/
def buttons : List NormalizedElement :=
  [button "Save" "saves" "menu_expand", button "Delete" "" "", button "Save" "saves" "tab_switch"]

theorem tiedElementsAgree : TiedElementsAgree buttons := by
  intro a ha b hb htie
  have htext : Text.strip a.elementText = Text.strip b.elementText :=
    (List.cons.inj (List.cons.inj (List.cons.inj htie).2).2).1
  unfold buttons at ha hb
  simp only [List.mem_cons, List.not_mem_nil, or_false] at ha hb
  rcases ha with rfl | rfl | rfl <;> rcases hb with rfl | rfl | rfl <;>
    first
    | rfl
    | exact absurd htext (by decide)

end RowOrderSample

open RowOrderSample in
/-- The orders of the rows are told apart by nothing: of the tied rows the one and the other may come
first. -/
theorem fingerprint_order_buttons :
    (OrderInvisible (page buttons) ↔ TiedElementsAgree buttons) ∧ OrderInvisible (page buttons) := by
  have hiff := fingerprint_order_iff (page buttons) (fun e he => ?_)
    (noCollision_of_tiedElementsAgree tiedElementsAgree)
  · exact ⟨hiff, hiff.mpr tiedElementsAgree⟩
  · unfold page buttons at he
    simp only [List.mem_cons, List.not_mem_nil, or_false] at he
    rcases he with rfl | rfl | rfl <;> trivial

open RowOrderSample in
/-- Two buttons that differ in their usage only: exchanging them changes a hash. -/
theorem fingerprint_order_fails : ¬ ∀ p : PagePayload, OrderInvisible p := by
  intro h
  have hsame := (h (page [button "Save" "saves" "", button "Save" "stores" ""]) [] []
    [button "Save" "saves" "", button "Save" "stores" ""]
    [button "Save" "stores" "", button "Save" "saves" ""] (List.Perm.refl _) (List.Perm.refl _)
    (List.Perm.refl _) (List.Perm.swap _ _ _)).1
  have hhash := congrArg PageFingerprint.semanticSummaryHash hsame
  exact absurd hhash (by decide +kernel)

end Fingerprints

end Runlet
