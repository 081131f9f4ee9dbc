import Runlet.AssetCompiler.TemplateRegistry

/-!
# Which checks a page gets

`asset_compiler/check_templates.py`.  Every page gets a `page_open` check; a page with a table a
`table_render` check and the template checks; a page that offers to create something an
`open_create_modal` check; and each representative state a check of its own.  Of several checks
with one code the first is kept, unless it belongs to the default state and a later one does not.
-/

namespace Runlet

structure StandardCheckDefinition where
  checkCode : String
  goal : String
  inputSchema : Option (List (String × Json)) := none
  assertionSchema : Option (List (String × Json)) := none
  stateSignature : Option String := none

/-- A state other than the page's default one, and how it is entered. -/
structure RepresentativeState where
  stateSignature : String
  entryType : String
  deriving DecidableEq

namespace CheckTemplates

/-- `_clean_text`: absent text is empty. -/
def cleanText : Option String → String
  | none => ""
  | some s => Text.strip s

def summarySuggestsCreateAction : Option String → Bool
  | none => false
  | some s =>
    s != "" && ["新增", "创建", "新建"].any fun keyword =>
      Text.containsText keyword (Text.strip s)

def buildTemplateChecks (defaultStateSignature : Option String) : List StandardCheckDefinition :=
  (TemplateRegistry.listTemplates "v1").map fun template =>
    { checkCode := template.templateCode
      goal := template.templateCode
      inputSchema := some [("required_slots", .arr (template.requiredSlots.map .str))]
      assertionSchema := some template.assertionContract
      stateSignature := defaultStateSignature }

def buildRepresentativeStateChecks (representativeStates : List RepresentativeState)
    (defaultStateSignature : Option String) : List StandardCheckDefinition :=
  representativeStates.filterMap fun state =>
    let stateSignature := Text.strip state.stateSignature
    if stateSignature = "" || stateSignature = cleanText defaultStateSignature then none
    else if Text.strip state.entryType = "tab_switch" then
      some
        { checkCode := "tab_switch_render"
          goal := "tab_switch_render"
          assertionSchema := some [("assertion", .str "table_visible")]
          stateSignature := some stateSignature }
    else if Text.strip state.entryType = "open_modal" then
      some
        { checkCode := "open_create_modal_state"
          goal := "open_create_modal"
          assertionSchema := some [("assertion", .str "modal_visible")]
          stateSignature := some stateSignature }
    else none

def preferNewCheck (existing candidate : StandardCheckDefinition)
    (defaultStateSignature : Option String) : Bool :=
  let defaultSignature := cleanText defaultStateSignature
  cleanText existing.stateSignature = defaultSignature &&
    cleanText candidate.stateSignature ≠ defaultSignature

/-- One step of the loop that fills `selected_by_code`, an insertion-ordered dictionary. -/
def selectByCode (defaultStateSignature : Option String) :
    List StandardCheckDefinition → StandardCheckDefinition → List StandardCheckDefinition
  | [], check => [check]
  | existing :: selected, check =>
    if existing.checkCode = check.checkCode then
      (if preferNewCheck existing check defaultStateSignature then check else existing) :: selected
    else existing :: selectByCode defaultStateSignature selected check

/-- The checks before the choice among equal codes. -/
def candidateChecks (pageSummary : Option String) (hasTable hasCreateAction : Bool)
    (representativeStates : List RepresentativeState) (defaultStateSignature : Option String) :
    List StandardCheckDefinition :=
  [{ checkCode := "page_open"
     goal := "page_open"
     assertionSchema := some [("assertion", .str "page_ready")]
     stateSignature := defaultStateSignature }] ++
  (if hasTable then
    { checkCode := "table_render"
      goal := "table_render"
      assertionSchema := some [("assertion", .str "table_visible")]
      stateSignature := defaultStateSignature } :: buildTemplateChecks defaultStateSignature
   else []) ++
  (if hasCreateAction || summarySuggestsCreateAction pageSummary then
    [{ checkCode := "open_create_modal"
       goal := "open_create_modal"
       assertionSchema := some
         [("assertion", .str "page_ready"),
          ("required_elements",
            .arr [.obj [("kind", .str "button"), ("role", .str "button")]])]
       stateSignature := defaultStateSignature }]
   else []) ++
  buildRepresentativeStateChecks representativeStates defaultStateSignature

def buildStandardChecks (pageSummary : Option String) (hasTable hasCreateAction : Bool)
    (representativeStates : List RepresentativeState) (defaultStateSignature : Option String) :
    List StandardCheckDefinition :=
  (candidateChecks pageSummary hasTable hasCreateAction representativeStates
    defaultStateSignature).foldl (selectByCode defaultStateSignature) []

end CheckTemplates

end Runlet
