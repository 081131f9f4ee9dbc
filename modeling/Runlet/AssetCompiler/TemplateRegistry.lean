import Runlet.Library.Json

/-!
# The check templates

`asset_compiler/template_registry.py`: the readonly data checks that can be compiled for a page
with a table or a list, and their lookup by code and version.
-/

namespace Runlet

/-- How a template is compiled to steps. -/
structure CompileStrategy where
  actionChain : List String
  actionParams : List (String × List (String × Json)) := []
  assertModule : String
  assertParams : List (String × Json)

structure TemplateDefinition where
  templateCode : String
  templateVersion : String
  supportedCarriers : List String
  requiredSlots : List String
  assertionContract : List (String × Json)
  compileStrategy : CompileStrategy
  readonly : Bool := true

def templateDefinitions : List TemplateDefinition :=
  [ { templateCode := "has_data"
      templateVersion := "v1"
      supportedCarriers := ["table", "list"]
      requiredSlots := []
      assertionContract := [("assertion", .str "data_count"), ("expected_min", .int 1)]
      compileStrategy :=
        { actionChain := ["action.submit_query"]
          assertModule := "assert.data_count"
          assertParams := [("expected_min", .int 1)] } },
    { templateCode := "no_data"
      templateVersion := "v1"
      supportedCarriers := ["table", "list"]
      requiredSlots := []
      assertionContract := [("assertion", .str "data_count"), ("expected_max", .int 0)]
      compileStrategy :=
        { actionChain := ["action.submit_query"]
          assertModule := "assert.data_count"
          assertParams := [("expected_max", .int 0)] } },
    { templateCode := "field_equals_exists"
      templateVersion := "v1"
      supportedCarriers := ["table", "list"]
      requiredSlots := ["field", "operator", "value"]
      assertionContract :=
        [("assertion", .str "row_exists_by_field"), ("field", .str "\x7b\x7bfield\x7d\x7d"),
          ("operator", .str "\x7b\x7boperator\x7d\x7d"), ("value", .str "\x7b\x7bvalue\x7d\x7d")]
      compileStrategy :=
        { actionChain := ["action.apply_filter", "action.submit_query"]
          actionParams :=
            [("action.apply_filter",
              [("field", .str "\x7b\x7bfield\x7d\x7d"),
                ("operator", .str "\x7b\x7boperator\x7d\x7d"),
                ("value", .str "\x7b\x7bvalue\x7d\x7d")])]
          assertModule := "assert.row_exists_by_field"
          assertParams :=
            [("field", .str "\x7b\x7bfield\x7d\x7d"),
              ("operator", .str "\x7b\x7boperator\x7d\x7d"),
              ("value", .str "\x7b\x7bvalue\x7d\x7d")] } },
    { templateCode := "status_exists"
      templateVersion := "v1"
      supportedCarriers := ["table", "list"]
      requiredSlots := ["status"]
      assertionContract :=
        [("assertion", .str "row_exists_by_field"), ("field", .str "status"),
          ("operator", .str "equals"), ("value", .str "\x7b\x7bstatus\x7d\x7d")]
      compileStrategy :=
        { actionChain := ["action.apply_filter", "action.submit_query"]
          actionParams :=
            [("action.apply_filter",
              [("field", .str "status"), ("operator", .str "equals"),
                ("value", .str "\x7b\x7bstatus\x7d\x7d")])]
          assertModule := "assert.row_exists_by_field"
          assertParams :=
            [("field", .str "status"), ("operator", .str "equals"),
              ("value", .str "\x7b\x7bstatus\x7d\x7d")] } },
    { templateCode := "count_gte"
      templateVersion := "v1"
      supportedCarriers := ["table", "list"]
      requiredSlots := ["min_count"]
      assertionContract :=
        [("assertion", .str "data_count"), ("expected_min", .str "\x7b\x7bmin_count\x7d\x7d")]
      compileStrategy :=
        { actionChain := ["action.submit_query"]
          assertModule := "assert.data_count"
          assertParams := [("expected_min", .str "\x7b\x7bmin_count\x7d\x7d")] } } ]

namespace TemplateRegistry

/-- `_normalize_text` of this module, which also lowers the case. -/
def normalizeText (value : String) : String :=
  Text.lower (Text.strip value)

def normalizeVersion (version : String) : String :=
  if normalizeText version = "" then "v1" else normalizeText version

def listTemplates (version : String) : List TemplateDefinition :=
  templateDefinitions.filter fun t => t.templateVersion = normalizeVersion version

def getTemplate (templateCode version : String) : Option TemplateDefinition :=
  templateDefinitions.find? fun t =>
    t.templateCode = normalizeText templateCode && t.templateVersion = normalizeVersion version

theorem listTemplates_v1 : listTemplates "v1" = templateDefinitions := by
  have h : ∀ t ∈ templateDefinitions, decide (t.templateVersion = normalizeVersion "v1") = true := by
    have hv : normalizeVersion "v1" = "v1" := by decide
    rw [hv]
    simp [templateDefinitions]
  exact List.filter_eq_self.mpr h

end TemplateRegistry

end Runlet
