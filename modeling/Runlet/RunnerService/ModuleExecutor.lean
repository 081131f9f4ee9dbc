import Runlet.Library.Words
import Runlet.AssetCompiler.LocatorBundles
import Runlet.RunnerService.RealtimeProbe

/-!
# Carrying out a module plan

`runner_service/module_executor.py` and the placeholders and counts of
`runner_service/data_assertion_modules.py`.  A step asks one thing of the browser runtime
(`plannedCall`) and judges the answer (`judge`); the run stops at the first step that fails.  The
runtime is a parameter: it answers a call, or raises, depending on the calls it has answered before.
-/

namespace Runlet

/-- What a step asks of the runtime. -/
inductive RuntimeCall where
  | injectAuthState
  | navigateMenuChain (menuChain : List String) (routePath : String)
  | waitPageReady (routePath : String)
  | assertTableVisible (routePath : Option String)
  | assertPageOpen (routePath : String)
  | openCreateModal
  | applyFilter (field operator : String) (value : Json) (carrier : String)
  | submitQuery (carrier : String)
  | readDataCount (carrier : String)
  | rowExistsByField (carrier field operator : String) (value : Json)
  | enterState (stateSignature : String)
  | resolveLocatorBundle (locatorBundle : List (String × Json))
      (contextConstraints : Option (List (String × Json)))

/-- The runtime answers with a value, or raises with a text. -/
abbrev RunnerRuntime := List RuntimeCall → RuntimeCall → Except String Json

namespace ModuleExecutor

/-! ## Parameters -/

/-- `str(value or "")`. -/
def textOrEmpty : Option Json → String
  | none => ""
  | some v => if v.truthy then v.text else ""

/-- The module of a step. -/
def moduleOf (step : Json) : String :=
  textOrEmpty (step.get? "module")

/-- `_coerce_params`. -/
def coerceParams : Option Json → List (String × Json)
  | some (.obj l) => l
  | _ => []

/-- `_coerce_optional_dict`. -/
def coerceOptionalDict : Option Json → Option (List (String × Json))
  | some (.obj l) => some l
  | _ => none

def isNull : Json → Bool
  | .null => true
  | _ => false

/-- `_coerce_menu_chain`. -/
def coerceMenuChain : Option Json → List String
  | some (.arr l) => (l.filter fun item => !isNull item).map Json.text
  | _ => []

/-- `_optional_text`. -/
def optionalText : Option Json → Option String
  | none => none
  | some v => if isNull v || Text.strip v.text = "" then none else some (Text.strip v.text)

/-- The name in `\{\{ name \}\}`. -/
def placeholderName (s : String) : Option String :=
  let l := (Text.strip s).toList
  let name := Text.stripList Text.isSpace ((l.drop 2).take (l.length - 4))
  if l.length < 5 || l.take 2 != ['\x7b', '\x7b'] || l.drop (l.length - 2) != ['\x7d', '\x7d'] ||
      name.isEmpty || !name.all (fun c => LocatorBundles.isClassChar c && c != '-') then none
  else some (String.ofList name)

/-- `_resolve_value`. -/
def resolveValue (runtimeInputs : List (String × Json)) : Json → Json
  | .str s =>
    match placeholderName s with
    | none => .str s
    | some name => ((Json.obj runtimeInputs).get? name).getD (.str s)
  | v => v

def resolveTemplatePlaceholders (params runtimeInputs : List (String × Json)) :
    List (String × Json) :=
  params.map fun e => (e.1, resolveValue runtimeInputs e.2)

/-- The parameters of a step. -/
def paramsOf (runtimeInputs : List (String × Json)) (step : Json) : List (String × Json) :=
  resolveTemplatePlaceholders (coerceParams (step.get? "params")) runtimeInputs

/-- `coerce_optional_int`; digits after several signs are not a number. -/
def coerceOptionalInt : Option Json → Except String (Option Int)
  | some (.int n) => .ok (some n)
  | some (.str s) =>
    if Digits.isDigits (String.ofList ((Text.strip s).toList.dropWhile (· == '-'))) then
      (Digits.read (Text.strip s)).map some
    else .ok none
  | _ => .ok none

/-! ## One step -/

section

variable (params : List (String × Json))

/-- A parameter. -/
def param (name : String) : Option Json :=
  (Json.obj params).get? name

def carrierOf : String :=
  (optionalText (param params "carrier")).getD "table"

def operatorOf : String :=
  (optionalText (param params "operator")).getD "equals"

/-- Field and value of a step; `message` is what is raised when one is missing. -/
def fieldAndValue (message : String) : Except String (String × Json) :=
  match optionalText (param params "field"), param params "value" with
  | some field, some value => if isNull value then .error message else .ok (field, value)
  | _, _ => .error message

/-- What a step asks of the runtime. -/
def plannedCall (module : String) : Except String RuntimeCall :=
  match module with
  | "auth.inject_state" => .ok .injectAuthState
  | "nav.menu_chain" =>
    .ok (.navigateMenuChain (coerceMenuChain (param params "menu_chain"))
      (textOrEmpty (param params "route_path")))
  | "page.wait_ready" => .ok (.waitPageReady (textOrEmpty (param params "route_path")))
  | "assert.table_visible" => .ok (.assertTableVisible (optionalText (param params "route_path")))
  | "assert.page_open" => .ok (.assertPageOpen (textOrEmpty (param params "route_path")))
  | "assert.page_ready" => .ok (.assertPageOpen (textOrEmpty (param params "route_path")))
  | "action.open_create_modal" => .ok .openCreateModal
  | "action.apply_filter" =>
    (fieldAndValue params "action.apply_filter requires non-empty field and value").map
      fun fv => .applyFilter fv.1 (operatorOf params) fv.2 (carrierOf params)
  | "action.submit_query" => .ok (.submitQuery (carrierOf params))
  | "assert.data_count" => .ok (.readDataCount (carrierOf params))
  | "assert.row_exists_by_field" =>
    (fieldAndValue params "assert.row_exists_by_field requires non-empty field and value").map
      fun fv => .rowExistsByField (carrierOf params) fv.1 (operatorOf params) fv.2
  | "state.enter" => .ok (.enterState (textOrEmpty (param params "state_signature")))
  | "locator.assert" =>
    .ok (.resolveLocatorBundle (coerceParams (param params "locator_bundle"))
      (coerceOptionalDict (param params "context_constraints")))
  | module => .error ("unsupported module: " ++ module)

/-- What an exception in a step becomes. -/
def raised (module detail : String) : StepExecutionResult where
  module := module
  status := .failed
  detail := some detail
  output := some (.obj
    [("failure_category", .str (RealtimeProbe.failureCategoryForModule module).value)])

/-- A step that came to its end. -/
def passedStep (module : String) (output : Option (List (String × Json))) :
    StepExecutionResult where
  module := module
  status := .passed
  output := output.map .obj

def optionJson : Option String → Json
  | none => .null
  | some s => .str s

/-- `_expect_truthy`, and the result of a step that passes. -/
def expectTruthy (module : String) (answer : Json) (output : Option (List (String × Json))) :
    Except String StepExecutionResult :=
  if answer.truthy then .ok (passedStep module output)
  else .error ("module " ++ module ++ " returned falsy result")

/-- `AuthInjectStatus(text)`. -/
def authInjectStatus (text : String) : Option AuthInjectStatus :=
  [AuthInjectStatus.reused, .refreshed, .blocked].find? fun status => status.value = text

/-- `_inject_auth_state`: the status the answer stands for. -/
def authStatusOf : Json → Except String AuthInjectStatus
  | .bool true => .ok .reused
  | .bool false => .ok .blocked
  | v =>
    match authInjectStatus (Text.lower (Text.strip (textOrEmpty (some v)))) with
    | some status => .ok status
    | none => .error ("unsupported auth inject outcome: " ++ v.text)

/-- `_coerce_positive_int`. -/
def coercePositiveInt : Option Json → Option Int
  | some (.int n) => if 0 < n then some n else none
  | _ => none

def optionalInt : Option Int → Json
  | none => .null
  | some n => .int n

/-- `validate_data_count_assertion`. -/
def validateDataCount (count : Int) (expectedMin expectedMax : Option Int) : Except String Unit :=
  match expectedMin.filter fun n => decide (count < n) with
  | some n =>
    .error (s!"data_count_assertion_failed: expected at least {n}, got " ++ toString count)
  | none =>
    match expectedMax.filter fun n => decide (n < count) with
    | some n =>
      .error (s!"data_count_assertion_failed: expected at most {n}, got " ++ toString count)
    | none => .ok ()

/-- The count is compared with the bounds; without bounds there is to be a row. -/
def judgeDataCount (module : String) : Json → Except String StepExecutionResult
  | .int count =>
    if count < 0 then .error "assert.data_count requires runtime to return non-negative int"
    else do
      let expectedMin ← coerceOptionalInt (param params "expected_min")
      let expectedMax ← coerceOptionalInt (param params "expected_max")
      let expectedMin := if expectedMin.isNone && expectedMax.isNone then some 1 else expectedMin
      validateDataCount count expectedMin expectedMax
      return passedStep module
        (some [("carrier", .str (carrierOf params)), ("actual_count", .int count),
          ("expected_min", optionalInt expectedMin), ("expected_max", optionalInt expectedMax)])
  | _ => .error "assert.data_count requires runtime to return non-negative int"

/-- `_build_locator_output`. -/
def locatorOutput (match_ : List (String × Json)) (matched : Bool) (category : String) :
    List (String × Json) :=
  let value (name : String) : Option Json := (Json.obj match_).get? name
  [("matched_rank",
      if matched then .int ((coercePositiveInt (value "matched_rank")).getD 1) else .null),
    ("strategy_type",
      if matched then optionJson (optionalText (value "strategy_type")) else .null),
    ("failure_category", if matched then .null else .str category)] ++
  ((optionalText (param params "assertion")).map fun s => ("assertion", Json.str s)).toList ++
  ((optionalText (param params "expected_element_type")).map fun s =>
    ("expected_element_type", Json.str s)).toList ++
  (if (value "context_mismatch").any Json.truthy then [("context_mismatch", .bool true)] else []) ++
  if (value "ambiguous_match").any Json.truthy then [("ambiguous_match", .bool true)] else []

/-- The match of a locator bundle is judged. -/
def judgeLocator (module : String) (answer : Json) : StepExecutionResult :=
  let match_ := coerceParams (some answer)
  let matched := ((Json.obj match_).get? "matched").any Json.truthy
  let category :=
    (optionalText ((Json.obj match_).get? "failure_category")).getD "locator_all_failed"
  { module := module
    status := if matched then .passed else .failed
    detail := if matched then none else some ("locator assert failed: " ++ category)
    output := some (.obj (locatorOutput params match_ matched category)) }

/-- The state was not reached. -/
def notReached (module detail stateSignature : String) : StepExecutionResult where
  module := module
  status := .failed
  detail := some detail
  output := some (.obj [("state_signature", .str stateSignature),
    ("failure_category", .str "state_not_reached")])

/-- The injection of the login state; a blocked one fails without a detail. -/
def injected (module : String) (status : AuthInjectStatus) : StepExecutionResult where
  module := module
  status := if status = .blocked then .failed else .passed
  output := some (.obj (("auth_status", .str status.value) ::
    if status = .blocked then [("failure_category", .str FailureCategory.authBlocked.value)]
    else []))

/-- The answer of the runtime is judged. -/
def judge (module : String) (call : RuntimeCall) (answer : Json) :
    Except String StepExecutionResult :=
  match call with
  | .injectAuthState => (authStatusOf answer).map (injected module)
  | .navigateMenuChain menuChain routePath =>
    expectTruthy module answer
      (some [("menu_chain", .arr (menuChain.map .str)), ("route_path", .str routePath)])
  | .waitPageReady routePath => expectTruthy module answer (some [("route_path", .str routePath)])
  | .assertTableVisible routePath =>
    expectTruthy module answer (routePath.map fun route => [("route_path", .str route)])
  | .assertPageOpen routePath => expectTruthy module answer (some [("route_path", .str routePath)])
  | .openCreateModal => expectTruthy module answer none
  | .applyFilter field operator value carrier =>
    expectTruthy module answer (some [("field", .str field), ("operator", .str operator),
      ("value", value), ("carrier", .str carrier)])
  | .submitQuery carrier => expectTruthy module answer (some [("carrier", .str carrier)])
  | .readDataCount _ => judgeDataCount params module answer
  | .rowExistsByField carrier field operator value =>
    if answer.truthy then
      .ok (passedStep module (some [("carrier", .str carrier), ("field", .str field),
        ("operator", .str operator), ("value", value)]))
    else
      .error ("row_exists_by_field_assertion_failed: field=" ++ field ++ " operator=" ++ operator ++
        " value=" ++ value.text)
  | .enterState stateSignature =>
    .ok (if answer.truthy then
      passedStep module (some [("state_signature", .str stateSignature)])
    else
      notReached module
        ("state_not_reached: state signature " ++ stateSignature ++ " was not reached")
        stateSignature)
  | .resolveLocatorBundle _ _ => .ok (judgeLocator params module answer)

/-- What a runtime that raises makes of a step. -/
def judgeRaised (module : String) (call : RuntimeCall) (error : String) : StepExecutionResult :=
  match call with
  | .enterState stateSignature =>
    notReached module (if Text.strip error = "" then "state_not_reached" else Text.strip error)
      stateSignature
  | _ => raised module error

end

/-! ## The run -/

/-- What the executor makes of the way the runtime answered a call. -/
def stepResult (params : List (String × Json)) (module : String) (call : RuntimeCall) :
    Except String Json → StepExecutionResult
  | .error e => judgeRaised module call e
  | .ok answer =>
    match judge params module call answer with
    | .error e => raised module e
    | .ok result => result

/-- The login status after an answer: an injection that came to an end sets it. -/
def authStatusAfter (status : AuthInjectStatus) :
    RuntimeCall → Except String Json → AuthInjectStatus
  | .injectAuthState, .ok answer => (authStatusOf answer).toOption.getD status
  | _, _ => status

/-- What a step leaves: the calls so far with the one it made, the login status, its result. -/
structure StepRun where
  calls : List RuntimeCall
  authStatus : AuthInjectStatus
  result : StepExecutionResult

/-- One step. -/
def runStep (runtime : RunnerRuntime) (runtimeInputs : List (String × Json))
    (calls : List RuntimeCall) (status : AuthInjectStatus) (step : Json) : StepRun :=
  let module := moduleOf step
  let params := paramsOf runtimeInputs step
  match plannedCall params module with
  | .error e => ⟨calls, status, raised module e⟩
  | .ok call =>
    let answer := runtime calls call
    ⟨calls ++ [call], authStatusAfter status call answer, stepResult params module call answer⟩

/-- The loop over the steps: it ends with the first one that fails. -/
def executeFrom (runtime : RunnerRuntime) (runtimeInputs : List (String × Json)) :
    List RuntimeCall → AuthInjectStatus → List StepExecutionResult → List Json →
      List RuntimeCall × ModuleExecutionResult
  | calls, status, results, [] => (calls, ⟨.passed, status, results⟩)
  | calls, status, results, step :: steps =>
    let run := runStep runtime runtimeInputs calls status step
    if run.result.status = .failed then
      (run.calls, ⟨.failed, run.authStatus, results ++ [run.result]⟩)
    else executeFrom runtime runtimeInputs run.calls run.authStatus (results ++ [run.result]) steps

/-- `ModuleExecutor.execute`, with the calls it makes. -/
def execute (runtime : RunnerRuntime) (runtimeInputs : List (String × Json))
    (stepsJson : List Json) : List RuntimeCall × ModuleExecutionResult :=
  executeFrom runtime runtimeInputs [] .blocked [] stepsJson

end ModuleExecutor

end Runlet
