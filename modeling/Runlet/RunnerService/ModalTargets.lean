import Runlet.CrawlerService.Extractors.SignatureTexts
import Runlet.RunnerService.PlaywrightRuntime

/-!
# The modal of a signature

The crawl writes the title of a modal into the signature of a state; the runner reads it back from
there, as what follows `modal=` at the first place where a part of the signature begins so.

`decodes_iff`: the runner reads the title that was written exactly when no part of the route or of
the tab name before it begins so, and the title has no colon; without a title, when nothing in the
signature looks like one.
-/

namespace Runlet
namespace ModalTargets

open StateProbe PlaywrightRuntime

/-! ## Marks -/

/-- The first part of a text that begins with `modal=`, without that. -/
def firstMark (l : List Char) : Option (List Char) :=
  (l.splitOn ':').findSome? modalMark

theorem findSome?_flatMap {α β γ : Type*} (g : β → Option γ) (f : α → List β) (l : List α) :
    (l.flatMap f).findSome? g = l.findSome? fun a => (f a).findSome? g := by
  induction l with
  | nil => rfl
  | cons a l ih =>
    rw [List.flatMap_cons, List.findSome?_append, ih, List.findSome?_cons]
    cases (f a).findSome? g <;> rfl

/-- What the runner makes of a mark. -/
def targetOf (mark : List Char) : Option String :=
  if Text.strip (String.ofList mark) = "" then none else some (Text.strip (String.ofList mark))

/-- The texts of a signature, the route first. -/
def signatureTexts (routePath : String) (stateContext : List (String × Json)) :
    List (List Char) :=
  routeText routePath :: (writtenTexts stateContext).map String.toList

theorem extractModalTarget_buildStateSignature (routePath : String)
    (stateContext : List (String × Json)) :
    extractModalTarget (buildStateSignature routePath stateContext) =
      ((signatureTexts routePath stateContext).findSome? firstMark).bind targetOf := by
  have htexts := toList_strip_buildStateSignature routePath stateContext
  have hne : Text.strip (buildStateSignature routePath stateContext) ≠ "" := by
    intro hempty
    have hmem := mem_colon_signature routePath stateContext
    rw [hempty] at hmem
    exact absurd hmem (by decide)
  unfold extractModalTarget
  dsimp only
  rw [if_neg hne, htexts, Text.splitOn_intercalate (List.cons_ne_nil _ _), findSome?_flatMap]
  unfold signatureTexts firstMark
  generalize (routeText routePath :: (writtenTexts stateContext).map String.toList).findSome?
    (fun l => (l.splitOn ':').findSome? modalMark) = found
  cases found <;> rfl

/-! ## Before the title -/

/-- What the tab adds to a signature. -/
def tabTexts (stateContext : List (String × Json)) : List String :=
  (labelledSuffix stateContext ("active_tab", "tab=")).toList

/-- What the entries behind the modal add to a signature. -/
def laterTexts (stateContext : List (String × Json)) : List String :=
  (labelledKeys.drop 2).filterMap (labelledSuffix stateContext) ++
    (sortedKeys stateContext).filterMap (extraField stateContext)

theorem suffixes_eq (stateContext : List (String × Json)) :
    suffixes stateContext = tabTexts stateContext ++
      ((contextValue stateContext "modal_title").map ("modal=" ++ ·)).toList ++
        laterTexts stateContext := by
  have hmodal : labelledSuffix stateContext ("modal_title", "modal=") =
      (contextValue stateContext "modal_title").map ("modal=" ++ ·) := by
    unfold labelledSuffix
    refine congrArg (Option.map · _) (funext fun value => if_neg fun h => ?_)
    exact absurd h.1 (by decide)
  rw [← hmodal, suffixes, laterTexts, tabTexts, labelledKeys, List.filterMap_cons,
    List.filterMap_cons]
  cases labelledSuffix stateContext ("active_tab", "tab=") <;>
    cases labelledSuffix stateContext ("modal_title", "modal=") <;> rfl

/-- The first mark in what is written before the title. -/
def markBefore (routePath : String) (stateContext : List (String × Json)) : Option (List Char) :=
  (routeText routePath :: (tabTexts stateContext).map String.toList).findSome? firstMark

/-- What is written before a title leaves it to be read: it has no mark, and the title no colon, or
its first mark reads like the title. -/
def LeavesTitle (title : String) : Option (List Char) → Prop
  | some mark => Text.strip (String.ofList mark) = title
  | none => ':' ∉ title.toList

/-- The runner finds the title, or nothing where there is none. -/
def Decodable (routePath : String) (stateContext : List (String × Json)) : Prop :=
  match contextValue stateContext "modal_title" with
  | some title => LeavesTitle title (markBefore routePath stateContext)
  | none =>
    ∀ mark, (signatureTexts routePath stateContext).findSome? firstMark = some mark →
      Text.strip (String.ofList mark) = ""

/-! ## The title -/

theorem modalMark_eq_some_iff {part mark : List Char} :
    modalMark part = some mark ↔ part = "modal=".toList ++ mark ∧ mark ≠ [] := by
  unfold modalMark
  constructor
  · intro h
    split_ifs at h with hmark
    obtain ⟨hinitial, hlength⟩ := Bool.and_eq_true_iff.mp hmark
    obtain ⟨rest, rfl⟩ := List.isPrefixOf_iff_prefix.mp hinitial
    rw [List.drop_left] at h
    obtain rfl := Option.some.inj h
    refine ⟨rfl, ?_⟩
    rintro rfl
    rw [List.append_nil] at hlength
    exact absurd hlength (by decide)
  · rintro ⟨rfl, hne⟩
    have hinitial : "modal=".toList.isPrefixOf ("modal=".toList ++ mark) = true :=
      List.isPrefixOf_iff_prefix.mpr (List.prefix_append _ _)
    have hlength : ("modal=".toList ++ mark).length ≠ "modal=".toList.length := by
      rw [List.length_append]
      have := List.length_pos_iff.mpr hne
      omega
    rw [if_pos (Bool.and_eq_true_iff.mpr ⟨hinitial, by simpa using hlength⟩), List.drop_left]

/-- A title without a colon is one part of the signature. -/
theorem firstMark_modal {title : String} (hne : title ≠ "") (h : ':' ∉ title.toList) :
    firstMark ("modal=" ++ title).toList = some title.toList := by
  have hnot : ':' ∉ ("modal=" ++ title).toList := by
    rw [String.toList_append]
    intro hmem
    rcases List.mem_append.mp hmem with hmem | hmem
    · exact absurd hmem (by decide)
    · exact h hmem
  have hmark : modalMark ("modal=" ++ title).toList = some title.toList := by
    refine modalMark_eq_some_iff.mpr ⟨String.toList_append, fun hnil => hne ?_⟩
    exact String.toList_injective hnil
  rw [firstMark, List.splitOn_eq_singleton hnot, List.findSome?_cons, hmark]

/-- A mark has no colon. -/
theorem notMem_of_firstMark {l mark : List Char} (h : firstMark l = some mark) : ':' ∉ mark := by
  obtain ⟨part, hpart, hmark⟩ := List.exists_of_findSome?_eq_some h
  obtain ⟨rfl, -⟩ := modalMark_eq_some_iff.mp hmark
  intro hmem
  rw [List.splitOn_eq_splitOnP] at hpart
  have hnot := (Text.mem_of_mem_splitOnP hpart ':' (List.mem_append_right _ hmem)).2
  exact absurd hnot (by decide)

theorem targetOf_eq_some_iff {mark : List Char} {target : String} :
    targetOf mark = some target ↔ Text.strip (String.ofList mark) = target ∧ target ≠ "" := by
  unfold targetOf
  split_ifs with hempty
  · rw [hempty]
    exact iff_of_false (fun h => nomatch h) fun h => h.2 h.1.symm
  · rw [Option.some.injEq]
    exact ⟨fun h => ⟨h, fun hnil => hempty (h.trans hnil)⟩, fun h => h.1⟩

/-- A target has no colon. -/
theorem notMem_of_extractModalTarget {mark : List Char} {target : String}
    (hmark : ':' ∉ mark) (h : targetOf mark = some target) : ':' ∉ target.toList := by
  rw [← (targetOf_eq_some_iff.mp h).1, Text.strip, String.toList_ofList, String.toList_ofList]
  obtain ⟨lead, trail, hl, -, -⟩ := Text.exists_stripList Text.isSpace mark
  intro hmem
  refine hmark ?_
  rw [hl]
  exact List.mem_append_left _ (List.mem_append_right _ hmem)

/-! ## The decoded title -/

section

variable {routePath : String} {stateContext : List (String × Json)} {title : String}

/-- With a title, what is written before it, the title, and what is written behind it. -/
theorem signatureTexts_of_title (h : contextValue stateContext "modal_title" = some title) :
    signatureTexts routePath stateContext =
      (routeText routePath :: (tabTexts stateContext).map String.toList) ++
        ("modal=" ++ title).toList :: (laterTexts stateContext).map String.toList := by
  have hsuffixes : suffixes stateContext =
      tabTexts stateContext ++ ("modal=" ++ title) :: laterTexts stateContext := by
    rw [suffixes_eq, h]
    simp
  have hwritten : writtenTexts stateContext = suffixes stateContext := by
    unfold writtenTexts
    rw [if_neg]
    rw [hsuffixes]
    simp
  rw [signatureTexts, hwritten, hsuffixes]
  simp

theorem findSome?_of_title (h : contextValue stateContext "modal_title" = some title) :
    (signatureTexts routePath stateContext).findSome? firstMark =
      (markBefore routePath stateContext).or
        ((("modal=" ++ title).toList :: (laterTexts stateContext).map String.toList).findSome?
          firstMark) := by
  rw [signatureTexts_of_title h, List.findSome?_append, markBefore]

/-- The runner reads no title with a colon. -/
theorem decodes_of_title (h : contextValue stateContext "modal_title" = some title) :
    extractModalTarget (buildStateSignature routePath stateContext) = some title ↔
      LeavesTitle title (markBefore routePath stateContext) := by
  have hne := ne_empty_of_contextValue h
  rw [extractModalTarget_buildStateSignature, findSome?_of_title h]
  cases markBefore routePath stateContext with
  | some mark =>
    rw [Option.some_or, Option.bind_some, targetOf_eq_some_iff]
    exact and_iff_left hne
  | none =>
    rw [Option.none_or]
    constructor
    · intro hdecoded
      obtain ⟨mark, hmark, htarget⟩ := Option.bind_eq_some_iff.mp hdecoded
      obtain ⟨l, -, hl⟩ := List.exists_of_findSome?_eq_some hmark
      exact notMem_of_extractModalTarget (notMem_of_firstMark hl) htarget
    · intro hcolon
      rw [List.findSome?_cons, firstMark_modal hne hcolon]
      dsimp only
      rw [Option.bind_some, targetOf_eq_some_iff, String.ofList_toList]
      exact ⟨strip_of_contextValue h, hne⟩

end

/-- **The runner reads the title that the crawl wrote exactly when nothing before it looks like one
and no colon cuts it.** -/
theorem decodes_iff (routePath : String) (stateContext : List (String × Json)) :
    extractModalTarget (buildStateSignature routePath stateContext) =
        contextValue stateContext "modal_title" ↔
      Decodable routePath stateContext := by
  unfold Decodable
  cases htitle : contextValue stateContext "modal_title" with
  | some title => exact decodes_of_title htitle
  | none =>
    rw [extractModalTarget_buildStateSignature, Option.bind_eq_none_iff]
    refine forall_congr' fun mark => imp_congr_right fun _ => ?_
    unfold targetOf
    split_ifs with hempty
    · exact iff_of_true rfl hempty
    · exact iff_of_false (fun h => nomatch h) hempty

/-- A title with a colon is cut. -/
theorem title_with_colon_is_cut :
    let stateContext : List (String × Json) := [("modal_title", .str "Edit: order")]
    contextValue stateContext "modal_title" = some "edit:_order" ∧
      extractModalTarget (buildStateSignature "/orders" stateContext) = some "edit" ∧
      extractModalTarget (buildStateSignature "/orders" stateContext) ≠
        contextValue stateContext "modal_title" := by
  decide +kernel

end ModalTargets
end Runlet
