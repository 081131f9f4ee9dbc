import Runlet.AssetCompiler.DefaultStates
import Runlet.CrawlerService.Extractors.SignatureTexts
import Runlet.CrawlerService.Extractors.StateElements

/-!
# Signatures that separate states

A signature joins the segments of a route and the texts of the entries with colons, and nothing is
escaped.  Where no text has a separator in it, a signature is cut in one way: the route is what
comes before the first entry, and an entry is its label and its value (`entryText_inj`).

Some states have one signature on purpose: a state without any entry is one of the default tab, and
keys are written in lower case with underscores.  `SameState` is what is left to tell apart.

* `sameState_of_buildStateSignature_eq`: plain states with one signature are the same.
* `signatures_separate_states`: so the elements of a state are passed over only when the same state
  was seen before.
-/

namespace Runlet
namespace StateProbe

open DefaultStates (core routeSegment_eq)

/-! ## Entries -/

/-- The name of an entry of a context: its key, or how another key is written. -/
def entryName (key : String) : String :=
  if key ∈ labelledKeys.map (·.1) then key else extraKey key

/-- What is written before a value. -/
def entryLabel (name : String) : String :=
  ((labelledKeys.find? fun entry => entry.1 = name).map (·.2)).getD (name ++ "=")

/-- How an entry is written. -/
def entryText (name value : String) : String :=
  if name = "active_tab" ∧ value = "default" then "default" else entryLabel name ++ value

/-- The entries that a signature is about; a state without any is one of the default tab. -/
def WritesEntry (stateContext : List (String × Json)) (name value : String) : Prop :=
  (∃ key ∈ stateContext.map (·.1), contextValue stateContext key = some value ∧
      entryName key = name ∧ name ≠ "") ∨
    suffixes stateContext = [] ∧ name = "active_tab" ∧ value = "default"

instance (stateContext : List (String × Json)) (name value : String) :
    Decidable (WritesEntry stateContext name value) :=
  inferInstanceAs (Decidable (_ ∨ _))

/-- The route and the entries of two states are the same. -/
structure SameState (routePath : String) (stateContext : List (String × Json))
    (routePath' : String) (stateContext' : List (String × Json)) : Prop where
  route : core routePath = core routePath'
  entries : ∀ name value,
    WritesEntry stateContext name value ↔ WritesEntry stateContext' name value

/-- A name that is not read as one of the labels, and has no separator. -/
structure IsPlainName (name : String) : Prop where
  notKey : name ∉ labelledKeys.map (·.1)
  notLabel : name ++ "=" ∉ labelledKeys.map (·.2)
  noColon : ':' ∉ name.toList
  noEquals : '=' ∉ name.toList

/-- No text of a state has a separator in it, and no segment of the route looks like an entry. -/
structure IsPlain (routePath : String) (stateContext : List (String × Json)) : Prop where
  noColon : ':' ∉ core routePath
  noEquals : '=' ∉ core routePath
  noDefault : "default".toList ∉ (core routePath).splitOn '/'
  notRoot : core routePath ≠ "root".toList
  values : ∀ key ∈ stateContext.map (·.1), ∀ value ∈ contextValue stateContext key,
    ':' ∉ value.toList
  names : ∀ key ∈ stateContext.map (·.1), (contextValue stateContext key).isSome = true →
    key ∉ labelledKeys.map (·.1) → IsPlainName (extraKey key)

instance (name : String) : Decidable (IsPlainName name) :=
  decidable_of_iff (name ∉ labelledKeys.map (·.1) ∧ name ++ "=" ∉ labelledKeys.map (·.2) ∧
      ':' ∉ name.toList ∧ '=' ∉ name.toList)
    ⟨fun h => ⟨h.1, h.2.1, h.2.2.1, h.2.2.2⟩, fun h => ⟨h.1, h.2, h.3, h.4⟩⟩

instance (routePath : String) (stateContext : List (String × Json)) :
    Decidable (IsPlain routePath stateContext) :=
  decidable_of_iff ((':' ∉ core routePath ∧ '=' ∉ core routePath ∧
      "default".toList ∉ (core routePath).splitOn '/' ∧ core routePath ≠ "root".toList) ∧
      (∀ key ∈ stateContext.map Prod.fst, ∀ value ∈ contextValue stateContext key,
        ':' ∉ value.toList) ∧
      ∀ key ∈ stateContext.map Prod.fst, (contextValue stateContext key).isSome = true →
        key ∉ labelledKeys.map Prod.fst → IsPlainName (extraKey key))
    ⟨fun h => ⟨h.1.1, h.1.2.1, h.1.2.2.1, h.1.2.2.2, h.2.1, h.2.2⟩,
      fun h => ⟨⟨h.1, h.2, h.3, h.4⟩, h.5, h.6⟩⟩

/-! ## How entries are written -/

theorem entryName_of_mem {key : String} (h : key ∈ labelledKeys.map (·.1)) :
    entryName key = key :=
  if_pos h

theorem entryName_of_notMem {key : String} (h : key ∉ labelledKeys.map (·.1)) :
    entryName key = extraKey key :=
  if_neg h

theorem entryLabel_of_mem : ∀ entry ∈ labelledKeys, entryLabel entry.1 = entry.2 := by
  decide

theorem entryLabel_of_notMem {name : String} (h : name ∉ labelledKeys.map (·.1)) :
    entryLabel name = name ++ "=" := by
  have hnone : labelledKeys.find? (fun entry => entry.1 = name) = none :=
    List.find?_eq_none.mpr fun entry hentry heq =>
      h (List.mem_map.mpr ⟨entry, hentry, of_decide_eq_true heq⟩)
  rw [entryLabel, hnone, Option.map_none, Option.getD_none]

/-- The name of an entry that may be written. -/
def IsName (name : String) : Prop :=
  name ∈ labelledKeys.map (·.1) ∨ IsPlainName name

theorem exists_toList_entryLabel {name : String} (h : IsName name) :
    ∃ word : List Char, (entryLabel name).toList = word ++ ['='] ∧ '=' ∉ word ∧ ':' ∉ word := by
  have hlabels : ∀ entry ∈ labelledKeys, (entryLabel entry.1).toList =
      (entryLabel entry.1).toList.dropLast ++ ['='] ∧
        '=' ∉ (entryLabel entry.1).toList.dropLast ∧
        ':' ∉ (entryLabel entry.1).toList.dropLast := by
    decide
  rcases h with h | h
  · obtain ⟨entry, hentry, rfl⟩ := List.mem_map.mp h
    exact ⟨_, hlabels entry hentry⟩
  · refine ⟨name.toList, ?_, h.noEquals, h.noColon⟩
    rw [entryLabel_of_notMem h.notKey, String.toList_append]
    rfl

theorem entryLabel_inj {name name' : String} (h : IsName name) (h' : IsName name')
    (heq : entryLabel name = entryLabel name') : name = name' := by
  have hmixed : ∀ {n n' : String}, n ∈ labelledKeys.map (·.1) → IsPlainName n' →
      entryLabel n ≠ entryLabel n' := by
    intro n n' hn hn' heq
    obtain ⟨entry, hentry, rfl⟩ := List.mem_map.mp hn
    rw [entryLabel_of_mem entry hentry, entryLabel_of_notMem hn'.notKey] at heq
    exact hn'.notLabel (List.mem_map.mpr ⟨entry, hentry, heq⟩)
  have hkeys : ∀ entry ∈ labelledKeys, ∀ entry' ∈ labelledKeys,
      entryLabel entry.1 = entryLabel entry'.1 → entry.1 = entry'.1 := by
    decide
  rcases h with h | h
  · rcases h' with h' | h'
    · obtain ⟨entry, hentry, rfl⟩ := List.mem_map.mp h
      obtain ⟨entry', hentry', rfl⟩ := List.mem_map.mp h'
      exact hkeys entry hentry entry' hentry' heq
    · exact absurd heq (hmixed h h')
  · rcases h' with h' | h'
    · exact absurd heq.symm (hmixed h' h)
    · rw [entryLabel_of_notMem h.notKey, entryLabel_of_notMem h'.notKey, ← String.toList_inj,
        String.toList_append, String.toList_append, List.append_left_inj, String.toList_inj] at heq
      exact heq

/-- **An entry can be read back from its text.** -/
theorem entryText_inj {name name' value value' : String} (h : IsName name) (h' : IsName name')
    (heq : entryText name value = entryText name' value') : name = name' ∧ value = value' := by
  have hdefault : '=' ∉ "default".toList := by decide
  have hequals : ∀ {n : String} (v : String), IsName n → '=' ∈ (entryLabel n ++ v).toList := by
    intro n v hn
    obtain ⟨word, hword, -, -⟩ := exists_toList_entryLabel hn
    rw [String.toList_append, hword]
    simp
  unfold entryText at heq
  split_ifs at heq with hd hd'
  · exact ⟨hd.1.trans hd'.1.symm, hd.2.trans hd'.2.symm⟩
  · exact absurd (heq ▸ hequals value' h') hdefault
  · exact absurd (heq ▸ hequals value h) hdefault
  · obtain ⟨word, hword, hno, -⟩ := exists_toList_entryLabel h
    obtain ⟨word', hword', hno', -⟩ := exists_toList_entryLabel h'
    have hchars := congrArg String.toList heq
    rw [String.toList_append, String.toList_append, hword, hword', List.append_assoc,
      List.append_assoc, List.singleton_append, List.singleton_append] at hchars
    obtain ⟨rfl, hvalue⟩ := Text.append_cons_inj_of_notMem hno hno' hchars
    refine ⟨entryLabel_inj h h' (String.toList_injective ?_), String.toList_injective hvalue⟩
    rw [hword, hword']

/-! ## What a context writes -/

section Contexts

variable {routePath : String} {stateContext : List (String × Json)}

/-- An entry with a value is one of the context. -/
theorem mem_keys_of_contextValue {key value : String}
    (h : contextValue stateContext key = some value) : key ∈ stateContext.map (·.1) := by
  obtain ⟨v, hv, -⟩ := Option.bind_eq_some_iff.mp h
  obtain ⟨entry, hfind, -⟩ := Option.map_eq_some_iff.mp hv
  have hkey := List.find?_some hfind
  exact List.mem_map.mpr ⟨entry, List.mem_of_find?_eq_some hfind, beq_iff_eq.mp hkey⟩

theorem IsPlain.isPlainName (h : IsPlain routePath stateContext) {key value : String}
    (hvalue : contextValue stateContext key = some value)
    (hnot : key ∉ labelledKeys.map (·.1)) : IsPlainName (extraKey key) :=
  h.names key (mem_keys_of_contextValue hvalue) (Option.isSome_of_eq_some hvalue) hnot

theorem entryText_of_isPlainName {name : String} (h : IsPlainName name) (value : String) :
    entryText name value = name ++ "=" ++ value := by
  have hne : ¬ (name = "active_tab" ∧ value = "default") := by
    rintro ⟨rfl, -⟩
    exact absurd h.notKey (by decide)
  rw [entryText, if_neg hne, entryLabel_of_notMem h.notKey]

theorem labelledSuffix_eq_some_iff {entry : String × String} (hentry : entry ∈ labelledKeys)
    {text : String} : labelledSuffix stateContext entry = some text ↔
      ∃ value, contextValue stateContext entry.1 = some value ∧
        entryText entry.1 value = text := by
  rw [labelledSuffix, Option.map_eq_some_iff]
  unfold entryText
  rw [entryLabel_of_mem entry hentry]

/-- **Each entry that is written has its text, and each text is that of an entry.** -/
theorem mem_suffixes_iff (h : IsPlain routePath stateContext) {text : String} :
    text ∈ suffixes stateContext ↔ ∃ key value, contextValue stateContext key = some value ∧
      entryName key ≠ "" ∧ entryText (entryName key) value = text := by
  have hempty : "" ∉ labelledKeys.map (·.1) := by decide
  rw [suffixes, List.mem_append, List.mem_filterMap, List.mem_filterMap]
  constructor
  · rintro (⟨entry, hentry, htext⟩ | ⟨key, -, htext⟩)
    · obtain ⟨value, hvalue, rfl⟩ := (labelledSuffix_eq_some_iff hentry).mp htext
      have hmem : entry.1 ∈ labelledKeys.map (·.1) := List.mem_map_of_mem hentry
      refine ⟨entry.1, value, hvalue, ?_, by rw [entryName_of_mem hmem]⟩
      rw [entryName_of_mem hmem]
      exact ne_of_mem_of_not_mem hmem hempty
    · obtain ⟨hnot, hne, value, hvalue, rfl⟩ := extraField_eq_some_iff.mp htext
      refine ⟨key, value, hvalue, ?_, ?_⟩
      · rw [entryName_of_notMem hnot]
        exact hne
      · rw [entryName_of_notMem hnot, entryText_of_isPlainName (h.isPlainName hvalue hnot)]
  · rintro ⟨key, value, hvalue, hne, rfl⟩
    by_cases hmem : key ∈ labelledKeys.map (·.1)
    · obtain ⟨entry, hentry, rfl⟩ := List.mem_map.mp hmem
      rw [entryName_of_mem hmem]
      exact Or.inl ⟨entry, hentry, (labelledSuffix_eq_some_iff hentry).mpr ⟨value, hvalue, rfl⟩⟩
    · rw [entryName_of_notMem hmem] at hne ⊢
      rw [entryText_of_isPlainName (h.isPlainName hvalue hmem)]
      exact Or.inr ⟨key, (List.mem_insertionSort _).mpr (mem_keys_of_contextValue hvalue),
        extraField_eq_some_iff.mpr ⟨hmem, hne, value, hvalue, rfl⟩⟩

theorem mem_writtenTexts_iff (h : IsPlain routePath stateContext) {text : String} :
    text ∈ writtenTexts stateContext ↔
      ∃ name value, WritesEntry stateContext name value ∧ entryText name value = text := by
  have hwritten : text ∈ suffixes stateContext ↔ ∃ name value,
      (∃ key ∈ stateContext.map (·.1), contextValue stateContext key = some value ∧
        entryName key = name ∧ name ≠ "") ∧ entryText name value = text := by
    rw [mem_suffixes_iff h]
    constructor
    · rintro ⟨key, value, hvalue, hne, htext⟩
      exact ⟨_, value, ⟨key, mem_keys_of_contextValue hvalue, hvalue, rfl, hne⟩, htext⟩
    · rintro ⟨name, value, ⟨key, -, hvalue, rfl, hne⟩, htext⟩
      exact ⟨key, value, hvalue, hne, htext⟩
  unfold writtenTexts WritesEntry
  split_ifs with hempty
  · -- Nothing is written but the default tab.
    have hnil := List.isEmpty_iff.mp hempty
    rw [hnil] at hwritten
    rw [List.mem_singleton]
    constructor
    · rintro rfl
      exact ⟨"active_tab", "default", Or.inr ⟨hnil, rfl, rfl⟩, rfl⟩
    · rintro ⟨name, value, hentry | ⟨-, rfl, rfl⟩, htext⟩
      · exact absurd (hwritten.mpr ⟨name, value, hentry, htext⟩) List.not_mem_nil
      · exact htext.symm
  · have hcons : suffixes stateContext ≠ [] := fun hnil => hempty (List.isEmpty_iff.mpr hnil)
    simp only [hcons, false_and, or_false]
    exact hwritten

theorem isName_of_writesEntry (h : IsPlain routePath stateContext) {name value : String}
    (hwrites : WritesEntry stateContext name value) : IsName name := by
  rcases hwrites with ⟨key, -, hvalue, rfl, -⟩ | ⟨-, rfl, -⟩
  · by_cases hmem : key ∈ labelledKeys.map (·.1)
    · rw [entryName_of_mem hmem]
      exact Or.inl hmem
    · rw [entryName_of_notMem hmem]
      exact Or.inr (h.isPlainName hvalue hmem)
  · exact Or.inl (by decide)

theorem noColon_of_writesEntry (h : IsPlain routePath stateContext) {name value : String}
    (hwrites : WritesEntry stateContext name value) : ':' ∉ value.toList := by
  rcases hwrites with ⟨key, hkey, hvalue, -, -⟩ | ⟨-, -, rfl⟩
  · exact h.values key hkey value hvalue
  · decide

/-! ## The parts of a signature -/

/-- A part that is read as an entry. -/
def isEntryPart (part : List Char) : Bool :=
  decide ('=' ∈ part) || decide (part = "default".toList)

theorem isEntryPart_of_mem_writtenTexts (h : IsPlain routePath stateContext) {text : String}
    (htext : text ∈ writtenTexts stateContext) :
    isEntryPart text.toList = true ∧ ':' ∉ text.toList := by
  obtain ⟨name, value, hwrites, rfl⟩ := (mem_writtenTexts_iff h).mp htext
  unfold entryText
  split_ifs
  · decide
  · obtain ⟨word, hword, -, hcolon⟩ := exists_toList_entryLabel (isName_of_writesEntry h hwrites)
    have hvalue := noColon_of_writesEntry h hwrites
    have hequals : '=' ∈ (entryLabel name ++ value).toList := by
      rw [String.toList_append, hword]
      simp
    refine ⟨Bool.or_eq_true_iff.mpr (Or.inl (decide_eq_true hequals)), ?_⟩
    rw [String.toList_append, hword]
    simp [hcolon, hvalue]

/-- The parts of a route. -/
def routeParts (routePath : String) : List (List Char) :=
  if core routePath = [] then ["root".toList] else (core routePath).splitOn '/'

theorem splitOn_routeSegment (h : ':' ∉ core routePath) :
    (routeSegment routePath).toList.splitOn ':' = routeParts routePath := by
  rw [routeSegment_eq, routeParts]
  split_ifs
  · exact List.splitOn_eq_singleton (by decide)
  · rw [Text.toList_replaceChar, String.toList_ofList, Text.splitOn_map_replace h]

theorem not_isEntryPart_of_mem_routeParts (h : IsPlain routePath stateContext) {part : List Char}
    (hpart : part ∈ routeParts routePath) : isEntryPart part = false := by
  unfold routeParts at hpart
  split_ifs at hpart
  · rw [List.mem_singleton.mp hpart]
    decide
  · have hequals : '=' ∉ part := fun hmem => by
      rw [List.splitOn_eq_splitOnP] at hpart
      exact h.noEquals (Text.mem_of_mem_splitOnP hpart _ hmem).1
    have hdefault : part ≠ "default".toList := ne_of_mem_of_not_mem hpart h.noDefault
    rw [isEntryPart, decide_eq_false hequals, decide_eq_false hdefault]
    rfl

/-- **A signature is cut in the parts of the route and the texts of the entries.** -/
theorem splitOn_buildStateSignature (h : IsPlain routePath stateContext) :
    (buildStateSignature routePath stateContext).toList.splitOn ':' =
      routeParts routePath ++ (writtenTexts stateContext).map String.toList := by
  have htexts : ((writtenTexts stateContext).map String.toList).flatMap (fun part =>
      part.splitOn ':') = (writtenTexts stateContext).map String.toList := by
    rw [List.flatMap_map, ← List.flatMap_singleton' (List.map _ _), List.flatMap_map]
    refine List.flatMap_congr fun text htext => ?_
    exact List.splitOn_eq_singleton (isEntryPart_of_mem_writtenTexts h htext).2
  rw [buildStateSignature_eq, Text.toList_joinWith, List.map_cons,
    show ":".toList = [':'] from by decide, Text.splitOn_intercalate (List.cons_ne_nil _ _),
    List.flatMap_cons, htexts, splitOn_routeSegment h.noColon]

end Contexts

/-- Two lists are cut in one way where the entries begin. -/
theorem append_inj_of_isEntryPart {parts parts' texts texts' : List (List Char)}
    (hparts : ∀ part ∈ parts, isEntryPart part = false)
    (hparts' : ∀ part ∈ parts', isEntryPart part = false)
    (htexts : ∀ text ∈ texts, isEntryPart text = true)
    (htexts' : ∀ text ∈ texts', isEntryPart text = true)
    (h : parts ++ texts = parts' ++ texts') : parts = parts' ∧ texts = texts' := by
  have hfilter : ∀ {parts texts : List (List Char)}, (∀ part ∈ parts, isEntryPart part = false) →
      (∀ text ∈ texts, isEntryPart text = true) → (parts ++ texts).filter isEntryPart = texts := by
    intro parts texts hparts htexts
    rw [List.filter_append, List.filter_eq_self.mpr htexts,
      List.filter_eq_nil_iff.mpr fun part hpart => by rw [hparts part hpart]; exact Bool.false_ne_true,
      List.nil_append]
  have heq : texts = texts' := by
    rw [← hfilter hparts htexts, h, hfilter hparts' htexts']
  subst heq
  exact ⟨List.append_cancel_right h, rfl⟩

section Separation

variable {routePath routePath' : String} {stateContext stateContext' : List (String × Json)}

theorem core_eq_of_routeParts_eq (h : core routePath ≠ "root".toList)
    (h' : core routePath' ≠ "root".toList) (heq : routeParts routePath = routeParts routePath') :
    core routePath = core routePath' := by
  have hsplit : ∀ l : List Char, ['/'].intercalate (l.splitOn '/') = l := fun l =>
    List.intercalate_splitOn ..
  unfold routeParts at heq
  split_ifs at heq with hnil hnil'
  · rw [hnil, hnil']
  · refine absurd ?_ h'
    rw [← hsplit (core routePath'), ← heq, List.intercalate_singleton]
  · refine absurd ?_ h
    rw [← hsplit (core routePath), heq, List.intercalate_singleton]
  · rw [← hsplit (core routePath), heq, hsplit]

theorem writesEntry_of_writtenTexts_eq (h : IsPlain routePath stateContext)
    (h' : IsPlain routePath' stateContext')
    (heq : writtenTexts stateContext = writtenTexts stateContext') {name value : String}
    (hwrites : WritesEntry stateContext name value) : WritesEntry stateContext' name value := by
  have htext : entryText name value ∈ writtenTexts stateContext :=
    (mem_writtenTexts_iff h).mpr ⟨name, value, hwrites, rfl⟩
  rw [heq] at htext
  obtain ⟨name', value', hwrites', hsame⟩ := (mem_writtenTexts_iff h').mp htext
  obtain ⟨rfl, rfl⟩ := entryText_inj (isName_of_writesEntry h' hwrites')
    (isName_of_writesEntry h hwrites) hsame
  exact hwrites'

/-- **Plain states with one signature are the same.** -/
theorem sameState_of_buildStateSignature_eq (h : IsPlain routePath stateContext)
    (h' : IsPlain routePath' stateContext')
    (heq : buildStateSignature routePath stateContext =
      buildStateSignature routePath' stateContext') :
    SameState routePath stateContext routePath' stateContext' := by
  have htexts : ∀ {r : String} {c : List (String × Json)}, IsPlain r c →
      ∀ text ∈ (writtenTexts c).map String.toList, isEntryPart text = true := by
    intro r c hplain text htext
    obtain ⟨s, hs, rfl⟩ := List.mem_map.mp htext
    exact (isEntryPart_of_mem_writtenTexts hplain hs).1
  have hcut := splitOn_buildStateSignature h
  rw [heq, splitOn_buildStateSignature h'] at hcut
  obtain ⟨hparts, hwritten⟩ := append_inj_of_isEntryPart
    (fun _ => not_isEntryPart_of_mem_routeParts h') (fun _ => not_isEntryPart_of_mem_routeParts h)
    (htexts h') (htexts h) hcut
  have hwritten' : writtenTexts stateContext' = writtenTexts stateContext :=
    List.map_injective_iff.mpr (fun _ _ h => String.toList_injective h) hwritten
  exact ⟨core_eq_of_routeParts_eq h.notRoot h'.notRoot hparts.symm, fun name value =>
    ⟨writesEntry_of_writtenTexts_eq h h' hwritten'.symm,
      writesEntry_of_writtenTexts_eq h' h hwritten'⟩⟩

end Separation

/-! ## The states of an extraction -/

/-- The states of an extraction, collected one after the other. -/
def collectAll (states : List Json) : Collected :=
  states.foldl Collected.collectStateElements {}

/-- The elements a state has. -/
def elementsOf (state : Json) : List ElementCandidate :=
  match identityOf state with
  | some (routePath, stateContext) => stateElements routePath stateContext state
  | none => []

/-- What a state is named by has no separators. -/
def PlainState (state : Json) : Prop :=
  ∀ identity ∈ identityOf state, IsPlain identity.1 identity.2

instance (state : Json) : Decidable (PlainState state) :=
  inferInstanceAs (Decidable (∀ identity ∈ identityOf state, _))

/-- Two states of an extraction are the same. -/
def SameProbed (state other : Json) : Prop :=
  ∃ routePath stateContext routePath' stateContext',
    identityOf state = some (routePath, stateContext) ∧
      identityOf other = some (routePath', stateContext') ∧
      SameState routePath stateContext routePath' stateContext'

/-- Each visited signature is that of a state. -/
def SignaturesFrom (states : List Json) (collected : Collected) : Prop :=
  ∀ signature ∈ collected.visitedSignatures, ∃ state ∈ states, ∃ routePath stateContext,
    identityOf state = some (routePath, stateContext) ∧
      buildStateSignature routePath stateContext = signature

theorem SignaturesFrom.collectStateElements {states : List Json} {collected : Collected}
    (h : SignaturesFrom states collected) (state : Json) :
    SignaturesFrom (states ++ [state]) (collected.collectStateElements state) := by
  have hold : ∀ signature ∈ collected.visitedSignatures, ∃ other ∈ states ++ [state],
      ∃ routePath stateContext, identityOf other = some (routePath, stateContext) ∧
        buildStateSignature routePath stateContext = signature := by
    intro signature hsignature
    obtain ⟨other, hother, hidentity⟩ := h signature hsignature
    exact ⟨other, List.mem_append_left _ hother, hidentity⟩
  unfold Collected.collectStateElements
  cases hidentity : identityOf state with
  | none => exact hold
  | some identity =>
    obtain ⟨routePath, stateContext⟩ := identity
    dsimp only
    split_ifs
    · exact hold
    · exact hold
    · intro signature hsignature
      rcases List.mem_append.mp hsignature with hsignature | hsignature
      · exact hold signature hsignature
      · exact ⟨state, List.mem_append_right _ (List.mem_singleton_self state), routePath,
          stateContext, hidentity, (List.mem_singleton.mp hsignature).symm⟩

theorem signaturesFrom_collectAll (states : List Json) :
    SignaturesFrom states (collectAll states) := by
  induction states using List.reverseRecOn with
  | nil => exact fun _ h => absurd h List.not_mem_nil
  | append_singleton states state ih =>
    rw [collectAll, List.foldl_append]
    exact ih.collectStateElements state

/-- A state whose signature is new is collected. -/
theorem elements_collectStateElements {collected : Collected} {state : Json}
    (h : ∀ routePath stateContext, identityOf state = some (routePath, stateContext) →
      buildStateSignature routePath stateContext ∉ collected.visitedSignatures) :
    (collected.collectStateElements state).elements = collected.elements ++ elementsOf state := by
  unfold Collected.collectStateElements elementsOf
  cases hidentity : identityOf state with
  | none => exact (List.append_nil _).symm
  | some identity =>
    obtain ⟨routePath, stateContext⟩ := identity
    dsimp only
    rw [if_neg (h routePath stateContext hidentity)]
    split_ifs with hempty
    · rw [List.isEmpty_iff.mp hempty, List.append_nil]
    · rfl

/-- **Signatures separate states.** -/
theorem signatures_separate_states :
    (∀ routePath stateContext routePath' stateContext',
      IsPlain routePath stateContext → IsPlain routePath' stateContext' →
        buildStateSignature routePath stateContext =
          buildStateSignature routePath' stateContext' →
        SameState routePath stateContext routePath' stateContext') ∧
    ∀ (before : List Json) (state : Json), (∀ other ∈ state :: before, PlainState other) →
      (∀ other ∈ before, ¬ SameProbed state other) →
        ((collectAll before).collectStateElements state).elements =
          (collectAll before).elements ++ elementsOf state := by
  refine ⟨fun _ _ _ _ h h' heq => sameState_of_buildStateSignature_eq h h' heq,
    fun before state hplain hnew => elements_collectStateElements ?_⟩
  intro routePath stateContext hidentity hvisited
  obtain ⟨other, hother, routePath', stateContext', hidentity', hsignature⟩ :=
    signaturesFrom_collectAll before _ hvisited
  refine hnew other hother ⟨routePath, stateContext, routePath', stateContext', hidentity,
    hidentity', sameState_of_buildStateSignature_eq ?_ ?_ hsignature.symm⟩
  · exact hplain state List.mem_cons_self _ hidentity
  · exact hplain other (List.mem_cons_of_mem _ hother) _ hidentity'

/-! ## States of a page -/

namespace SeparationSample

def state (stateContext : List (String × Json)) (text : String) : Json :=
  .obj
    [("route_path", .str "/users"), ("state_context", .obj stateContext),
      ("elements", .arr [.obj [("element_type", .str "button"), ("text", .str text)]])]

def page : Json :=
  state [("active_tab", .str "default")] "New"

def dialog : Json :=
  state [("active_tab", .str "default"), ("modal_title", .str "New User")] "Save"

end SeparationSample

theorem signatures_separate_states_sample :
    SameState "/users/" [] "/users" [("active_tab", .str "default")] ∧
      ((collectAll [SeparationSample.page]).collectStateElements SeparationSample.dialog).elements =
        (collectAll [SeparationSample.page]).elements ++ elementsOf SeparationSample.dialog := by
  have hplain : ∀ other ∈ [SeparationSample.dialog, SeparationSample.page], PlainState other := by
    decide +kernel
  have hdialog : ∀ identity ∈ identityOf SeparationSample.dialog,
      WritesEntry identity.2 "modal_title" "new_user" := by
    decide +kernel
  have hpage : ∀ identity ∈ identityOf SeparationSample.page,
      ¬ WritesEntry identity.2 "modal_title" "new_user" := by
    decide +kernel
  refine ⟨signatures_separate_states.1 _ _ _ _ (by decide +kernel) (by decide +kernel)
    (by decide +kernel), signatures_separate_states.2 _ _ hplain fun other hother => ?_⟩
  rw [List.mem_singleton.mp hother]
  rintro ⟨routePath, stateContext, routePath', stateContext', h, h', hsame⟩
  exact hpage _ h' ((hsame.entries _ _).mp (hdialog _ h))

/-- Texts that are not escaped can be cut in two ways. -/
example : buildStateSignature "/users" [("modal_title", .str "new:drawer=log")] =
    buildStateSignature "/users" [("modal_title", .str "new"), ("drawer_title", .str "log")] := by
  decide +kernel

/-- The default tab is named as no tab at all, and a key with a hyphen as one with an underscore:
the second state is passed over. -/
theorem signatures_merge_states :
    (¬ ∀ routePath stateContext routePath' stateContext',
      buildStateSignature routePath stateContext =
          buildStateSignature routePath' stateContext' →
        core routePath = core routePath' ∧
          ∀ key, contextValue stateContext key = contextValue stateContext' key) ∧
    ¬ ∀ (before : List Json) (state : Json),
      (∀ other ∈ before, ∀ identity ∈ identityOf state, ∀ identity' ∈ identityOf other,
        ¬ (core identity.1 = core identity'.1 ∧
          ∀ key, contextValue identity.2 key = contextValue identity'.2 key)) →
        ((collectAll before).collectStateElements state).elements =
          (collectAll before).elements ++ elementsOf state := by
  constructor
  · intro h
    have hvalues := (h "/users" [] "/users" [("active_tab", .str "default")] (by decide +kernel)).2
    exact absurd (hvalues "active_tab") (by decide +kernel)
  · intro h
    have helements := h [SeparationSample.state [("row-filter", .str "open")] "Old"]
      (SeparationSample.state [("row_filter", .str "open")] "New") ?_
    · exact absurd (congrArg List.length helements) (by decide +kernel)
    · intro other hother identity hidentity identity' hidentity' hsame
      rw [List.mem_singleton.mp hother] at hidentity'
      have hvalue : ∀ identity ∈ identityOf
          (SeparationSample.state [("row_filter", .str "open")] "New"),
          contextValue identity.2 "row_filter" = some "open" := by
        decide +kernel
      have hnone : ∀ identity ∈ identityOf
          (SeparationSample.state [("row-filter", .str "open")] "Old"),
          contextValue identity.2 "row_filter" = none := by
        decide +kernel
      have hfalse := hsame.2 "row_filter"
      rw [hvalue identity hidentity, hnone identity' hidentity'] at hfalse
      cases hfalse

end StateProbe
end Runlet
