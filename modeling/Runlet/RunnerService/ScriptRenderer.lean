import Runlet.Infrastructure.Database

/-!
# Rendering a check to a script

`runner_service/script_renderer.py`, by the row it writes: the script of a check carries the
identifier of that check in its metadata.  Its text is in `ScriptText`.
-/

namespace Runlet

open KeyedTable

/-- A session at work: what was committed, and whether the call succeeded. -/
abbrev Transacted (α : Type) :=
  Db × Except String α

namespace ScriptRenderer

/-- `_validate_render_mode`. -/
def validateRenderMode (value : String) : Except String String :=
  let normalized := Text.lower (Text.strip value)
  if normalized = "runtime" ∨ normalized = "published" then .ok normalized
  else .error "render_mode must be runtime or published"

/-- `str(value or "")`. -/
def textOrEmpty : Option Json → String
  | none => ""
  | some v => if v.truthy then v.text else ""

def extractAuthPolicy (stepsJson : List Json) : String :=
  let policy :=
    match stepsJson.find? fun step => textOrEmpty (step.get? "module") = "auth.inject_state" with
    | none => ""
    | some step =>
      match step.get? "params" with
      | some (.obj params) =>
        Text.lower (Text.strip (textOrEmpty ((Json.obj params).get? "policy")))
      | _ => ""
  if policy = "" then "server_injected" else policy

/-- The metadata of a script. -/
def renderMetadata (check : PageCheck) (asset : PageAsset) (system : System) (plan : ModulePlan)
    (mode : String) : RenderMetadata where
  pageCheckId := some check.id
  pageAssetId := some asset.id
  assetKey := some asset.assetKey
  assetVersion := some asset.assetVersion
  systemId := some system.id
  baseUrl := some system.baseUrl
  modulePlanId := some plan.id
  planVersion := some plan.planVersion
  runtimePolicy := some mode
  authPolicy := some (extractAuthPolicy plan.stepsJson)
  checkCode := some check.checkCode

/-- The rows a script is rendered from. -/
def renderTarget (pageCheckId : UUID) (db : Db) :
    Except String (PageCheck × PageAsset × System × ModulePlan) :=
  match db.pageChecks.get? pageCheckId with
  | none => .error s!"page check {UUID.text pageCheckId} not found"
  | some check =>
    match check.modulePlanId with
    | none => .error s!"page check {UUID.text pageCheckId} has no module plan"
    | some planId =>
      match db.modulePlans.get? planId with
      | none => .error s!"module plan {UUID.text planId} not found"
      | some plan =>
        match db.pageAssets.get? check.pageAssetId with
        | none => .error s!"page asset {UUID.text check.pageAssetId} not found"
        | some asset =>
          match db.pages.get? asset.pageId with
          | none => .error s!"page {UUID.text asset.pageId} not found"
          | some _ =>
            match db.systems.get? asset.systemId with
            | none => .error s!"system {UUID.text asset.systemId} not found"
            | some system => .ok (check, asset, system, plan)

/-- Render a check; the result is the identifier of the new script. -/
def renderPageCheck (ids : IdSource) (now : DateTime) (pageCheckId : UUID) (renderMode : String)
    (db : Db) : Transacted UUID :=
  match validateRenderMode renderMode with
  | .error e => (db, .error e)
  | .ok mode =>
    match renderTarget pageCheckId db with
    | .error e => (db, .error e)
    | .ok (check, asset, system, plan) =>
      let scriptRenderId := db.scriptRenders.nextKey ids
      ({ db with
          scriptRenders := db.scriptRenders.insert ids fun id =>
            { id := id
              executionPlanId := none
              renderMode := mode
              renderMetadata := some (renderMetadata check asset system plan mode)
              createdAt := now } },
        .ok scriptRenderId)

end ScriptRenderer

end Runlet
