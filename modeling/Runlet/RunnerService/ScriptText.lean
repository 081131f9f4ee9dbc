import Runlet.RunnerService.ModuleExecutor

/-!
# The text of a rendered script

`_render_script` of `runner_service/script_renderer.py`: a script opens a browser, carries out the
steps of a plan one line after the other, and closes it.  A line is a statement for one of six
modules, or a comment that keeps the name of any other (`ScriptLine`); the step that injects the
authentication has no line.
-/

namespace Runlet

/-- What a statement of a script does with the page. -/
inductive ScriptStatement where
  | navigateMenuChain (menuChain : List String) (routePath : String)
  | waitForUrl (routePath : String)
  | expectTableVisible
  | expectUrl (routePath : String)
  | clickCreate
  deriving DecidableEq

inductive ScriptLine where
  | statement (statement : ScriptStatement)
  | comment (module : String)
  deriving DecidableEq

namespace ScriptText

/-! ## Literals -/

/-- `repr` of a list of texts. -/
def reprList (l : List String) : String :=
  "[" ++ Text.joinWith ", " (l.map Json.quoted) ++ "]"

/-- The characters that `re.escape` puts a backslash before. -/
def reSpecial : List Char :=
  ['(', ')', '[', ']', '\x7b', '\x7d', '?', '*', '+', '-', '|', '^', '$', '\\', '.', '&', '~', '#',
    ' ', '\t', '\n', '\r', '\x0b', '\x0c']

/-- `re.escape`. -/
def reEscape (s : String) : String :=
  String.ofList (s.toList.flatMap fun c => if c ∈ reSpecial then ['\\', c] else [c])

/-- `_route_pattern`. -/
def routePattern (routePath : String) : String :=
  ".*" ++ reEscape routePath

/-! ## Lines -/

def indent : String := "        "

namespace ScriptStatement

def text : ScriptStatement → String
  | .navigateMenuChain menuChain routePath =>
    indent ++ "await navigate_menu_chain(page, " ++ reprList menuChain ++ ", " ++
      Json.quoted routePath ++ ")"
  | .waitForUrl routePath =>
    indent ++ "await page.wait_for_url(re.compile(" ++ Json.quoted (routePattern routePath) ++ "))"
  | .expectTableVisible => indent ++ "await expect(page.get_by_role(\"table\")).to_be_visible()"
  | .expectUrl routePath =>
    indent ++ "await expect(page).to_have_url(re.compile(" ++ Json.quoted (routePattern routePath) ++
      "))"
  | .clickCreate =>
    indent ++ "await page.get_by_role(\"button\", name=re.compile(\"新增|新建|创建\")).click()"

/-- The statement uses the module `re`. -/
def needsRe : ScriptStatement → Bool
  | .waitForUrl _ => true
  | .expectUrl _ => true
  | .clickCreate => true
  | _ => false

end ScriptStatement

def lineText : ScriptLine → String
  | .statement statement => ScriptStatement.text statement
  | .comment module => indent ++ "# Unsupported module preserved for review: " ++ module

def lineNeedsRe : ScriptLine → Bool
  | .statement statement => ScriptStatement.needsRe statement
  | .comment _ => false

/-- The items of a value that is iterated over. -/
def iterated : Json → Except String (List Json)
  | .arr l => .ok l
  | .str s => .ok (s.toList.map fun c => .str (String.ofList [c]))
  | .obj l => .ok (l.map fun e => .str e.1)
  | .null => .error "'NoneType' object is not iterable"
  | .bool _ => .error "'bool' object is not iterable"
  | .int _ => .error "'int' object is not iterable"
  | .float _ _ => .error "'float' object is not iterable"

/-- The parameters of a step, `{}` when they are not an object. -/
def paramsOf (step : Json) : List (String × Json) :=
  ModuleExecutor.coerceParams (step.get? "params")

/-- The line of a step, if it has one. -/
def stepLine (step : Json) : Except String (Option ScriptLine) :=
  let params := paramsOf step
  let routePath := ModuleExecutor.textOrEmpty (ModuleExecutor.param params "route_path")
  match ModuleExecutor.moduleOf step with
  | "auth.inject_state" => .ok none
  | "nav.menu_chain" =>
    (iterated ((ModuleExecutor.param params "menu_chain").getD (.arr []))).map fun items =>
      some (.statement (.navigateMenuChain
        ((items.filter fun item => !ModuleExecutor.isNull item).map Json.text) routePath))
  | "page.wait_ready" => .ok (some (.statement (.waitForUrl routePath)))
  | "assert.table_visible" => .ok (some (.statement .expectTableVisible))
  | "assert.page_open" => .ok (some (.statement (.expectUrl routePath)))
  | "assert.page_ready" => .ok (some (.statement (.expectUrl routePath)))
  | "action.open_create_modal" => .ok (some (.statement .clickCreate))
  | module => .ok (some (.comment module))

/-- The lines of the steps, in their order. -/
def stepLines (stepsJson : List Json) : Except String (List ScriptLine) :=
  (stepsJson.mapM stepLine).map (List.filterMap id)

/-! ## The script -/

def scriptHeader (lines : List ScriptLine) : String :=
  (if lines.any lineNeedsRe then "import re\n" else "") ++
    "from playwright.async_api import async_playwright, expect"

def scriptHelpers : String :=
  "async def navigate_menu_chain(page, menu_chain: list[str], route_path: str) -> None:\n" ++
  "    await page.goto(f\"\x7bBASE_URL\x7d\x7broute_path\x7d\")\n" ++
  "    for label in menu_chain:\n" ++
  "        await page.get_by_role(\"link\", name=label).wait_for(state=\"visible\")\n" ++
  "\n\n" ++
  "async def apply_auth_policy(context, auth_policy: str) -> None:\n" ++
  "    if auth_policy != \"server_injected\":\n" ++
  "        raise ValueError(f\"unsupported auth policy: \x7bauth_policy\x7d\")\n" ++
  "    # Authentication is injected by the platform runtime, not by this script.\n" ++
  "\n\n"

/-- The lines of the steps, or `pass`. -/
def scriptBody (lines : List ScriptLine) : String :=
  if lines.isEmpty then "        pass" else Text.joinWith "\n" (lines.map lineText)

def renderScript (stepsJson : List Json) (baseUrl renderMode authPolicy : String) :
    Except String String :=
  (stepLines stepsJson).map fun lines =>
    scriptHeader lines ++ "\n\n\n" ++ scriptHelpers ++
    "async def run() -> None:\n" ++
    "    async with async_playwright() as playwright:\n" ++
    "        browser = await playwright.chromium.launch(headless=True)\n" ++
    "        # Auth policy: " ++ authPolicy ++ " (" ++ renderMode ++ ")\n" ++
    "        context_kwargs = \x7b\x7d\n" ++
    "        context = await browser.new_context(**context_kwargs)\n" ++
    "        page = await context.new_page()\n" ++
    "        await apply_auth_policy(context, AUTH_POLICY)\n" ++
    scriptBody lines ++ "\n" ++
    "        await context.close()\n" ++
    "        await browser.close()\n\n\n" ++
    "AUTH_POLICY = " ++ Json.quoted authPolicy ++ "\n" ++
    "BASE_URL = " ++ Json.quoted baseUrl ++ "\n"

end ScriptText

end Runlet
