import Runlet.Library.Recording
import Runlet.RunnerService.ModuleExecutor

/-!
# Entering a state in the browser

The part of `runner_service/playwright_runtime.py` that enters the state a check is about: the modal
that a state signature names, whether a dialog of this name is to be seen, and the button that opens
the dialog for a new record.  The page is a parameter; what it answers may depend on all that was
asked of it and done to it before.
-/

namespace Runlet

/-- `page.get_by_role("dialog", name=…)`. -/
inductive DialogName where
  | any
  /-- A name with 新增, 新建 or 创建. -/
  | creating
  | exact (name : String)
  | containing (name : String)
  deriving DecidableEq

/-- What the runtime looks for on the page. -/
inductive PageLocator where
  | dialog (name : DialogName)
  | createButton
  | createLink
  deriving DecidableEq

/-- What the runtime did with the page and learned from it. -/
inductive PageEvent where
  | counted (locator : PageLocator) (count : ℕ)
  | sawVisible (locator : PageLocator) (visible : Bool)
  | waited (locator : PageLocator)
  | clicked (locator : PageLocator)

/-- A page: how many elements a locator finds, whether the first one is visible, whether waiting for
it to become visible comes to an end, and whether it can be clicked. -/
structure BrowserPage where
  count : List PageEvent → PageLocator → Except String ℕ
  isVisible : List PageEvent → PageLocator → Except String Bool
  waitVisible : List PageEvent → PageLocator → Except String Unit
  click : List PageEvent → PageLocator → Except String Unit

namespace BrowserPage

variable (page : BrowserPage) (locator : PageLocator)

def askCount : Recording PageEvent ℕ :=
  .ask (page.count · locator) (.counted locator)

def askVisible : Recording PageEvent Bool :=
  .ask (page.isVisible · locator) (.sawVisible locator)

def awaitVisible : Recording PageEvent Unit :=
  .ask (page.waitVisible · locator) fun _ => .waited locator

def doClick : Recording PageEvent Unit :=
  .ask (page.click · locator) fun _ => .clicked locator

end BrowserPage

namespace PlaywrightRuntime

/-! ## The modal of a signature -/

/-- What follows `modal=` in a part of a signature. -/
def modalMark (part : List Char) : Option (List Char) :=
  if "modal=".toList.isPrefixOf part && part.length != "modal=".toList.length then
    some (part.drop "modal=".toList.length)
  else none

/-- `_extract_modal_target`: a match of the pattern begins at the start or behind a colon, and goes
on up to the next colon. -/
def extractModalTarget (stateSignature : String) : Option String :=
  let normalized := Text.strip stateSignature
  if normalized = "" then none
  else
    match (normalized.toList.splitOn ':').findSome? modalMark with
    | none => none
    | some matched =>
      let target := Text.strip (String.ofList matched)
      if target = "" then none else some target

/-! ## The page -/

/-- `_is_target_modal_visible`. -/
def isTargetModalVisible (page : BrowserPage) (modalTarget : String) : Recording PageEvent Bool :=
  let target := Text.strip modalTarget
  if target = "" then pure false
  else if Text.lower target ∈ ["create", "new", "add"] then do
    let count ← page.askCount (.dialog .creating)
    if count = 0 then pure false
    else page.askVisible (.dialog .creating)
  else do
    let count ← page.askCount (.dialog (.exact target))
    if 0 < count then page.askVisible (.dialog (.exact target))
    else do
      let count ← page.askCount (.dialog (.containing target))
      if 0 < count then page.askVisible (.dialog (.containing target))
      else pure false

/-- Whether the first dialog was visible before, when there is one. -/
def dialogVisible (page : BrowserPage) (count : ℕ) : Recording PageEvent Bool :=
  if 0 < count then page.askVisible (.dialog .any) else pure false

def openCreateModal (page : BrowserPage) : Recording PageEvent Bool := do
  let countBefore ← page.askCount (.dialog .any)
  let visibleBefore ← dialogVisible page countBefore
  let buttons ← page.askCount .createButton
  let trigger : PageLocator := if buttons = 0 then .createLink else .createButton
  page.awaitVisible trigger
  page.doClick trigger
  page.awaitVisible (.dialog .any)
  let countAfter ← page.askCount (.dialog .any)
  let visibleAfter ← page.askVisible (.dialog .any)
  if countBefore < countAfter ∨ (visibleBefore = false ∧ visibleAfter = true) then pure true
  else .raise "open_create_modal did not change dialog state"

/-- `enter_state`; there is no page before the login. -/
def enterState (page : Option BrowserPage) (stateSignature : String) :
    Recording PageEvent Bool :=
  match extractModalTarget stateSignature with
  | none => pure true
  | some modalTarget =>
    match page with
    | none => .raise "playwright runner runtime is not initialized"
    | some page => do
      let visible ← isTargetModalVisible page modalTarget
      if visible then pure true
      else do
        let _ ← openCreateModal page
        let visible ← isTargetModalVisible page modalTarget
        if visible then pure true
        else .raise ("state_not_reached: target modal=" ++ modalTarget ++ " not reached")

/-- How a page is asked for the dialog of a target. -/
def dialogNames (modalTarget : String) : List DialogName :=
  if Text.lower modalTarget ∈ ["create", "new", "add"] then [.creating]
  else [.exact modalTarget, .containing modalTarget]

end PlaywrightRuntime
end Runlet
