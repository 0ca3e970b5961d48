import Graft.Instrumentation

namespace Graft.CustomResource

open Json

def group : String := "monitor.azure.com"

def version : String := "v1"

def kind : String := "Instrumentation"

def plural : String := "instrumentations"

/-- The schema of a value of a type. -/
def schema (type description : String) (more : List (String × Json) := []) : Json :=
  mkObj ([("type", .str type), ("description", .str description)] ++ more)

/-- The schema of a value that may be `null`. -/
def optional (type description : String) (more : List (String × Json) := []) : Json :=
  schema type description (("nullable", .bool true) :: more)

/-- Fields of an object, of which some must be there. -/
def fields (properties : List (String × Json)) (required : List String := []) : List (String × Json) :=
  ("properties", mkObj properties) :: if required.isEmpty then [] else [("required", strings required)]

def platformSchema : Json := schema "string"
  ("Application platforms that can be auto-instrumented\n\n`OpenTelemetry` is accepted by the CRD schema so that "
    ++ "resources written against newer webhook versions still load, but the mutation catalog refuses to generate "
    ++ "anything for it.")
  [("enum", .arr (Platform.all.map Platform.toJson))]

def logCollectionSchema : Json := optional "object" "Log collection toggles" (fields [
  ("disableAppLogs", optional "boolean" "Stop the injected agents from collecting application logs"),
  ("disableContainerLogs",
    optional "boolean" "Exclude the pod's container logs from Container Insights collection")])

def settingsSchema : Json := schema "object" "What to inject and how"
  (("default", .obj [("autoInstrumentationPlatforms", .arr [])]) :: fields [
    ("autoInstrumentationPlatforms",
      schema "array" "Platforms to instrument when a pod template does not choose explicitly"
        [("default", .arr []), ("items", platformSchema)]),
    ("imageRepositoryPath",
      optional "string" "Alternate registry path replacing the default agent image prefix"),
    ("logCollectionSettings", logCollectionSchema)])

def destinationSchema : Json := schema "object" "Telemetry destination" (fields [
  ("applicationInsightsConnectionString", schema "string" "Application Insights connection string")]
  ["applicationInsightsConnectionString"])

def specSchema : Json := schema "object" "Specification for an Instrumentation resource" (fields [
  ("settings", settingsSchema), ("destination", destinationSchema)] ["destination"])

def resourceSchema : Json :=
  schema "object" "Auto-generated derived type for InstrumentationSpec via `CustomResource`"
    (("title", .str kind) :: fields [("spec", specSchema)] ["spec"])

/-- A column that is shown when resources are listed. -/
def column (name type path : String) : Json :=
  mkObj [("name", .str name), ("type", .str type), ("jsonPath", .str path)]

/-- The definition of the instrumentation resource, as it is registered with the API server: its names, and a schema
that tells what a resource looks like. -/
def definition : Json := mkObj [
  ("apiVersion", .str "apiextensions.k8s.io/v1"),
  ("kind", .str "CustomResourceDefinition"),
  ("metadata", .obj [("name", .str (plural ++ "." ++ group))]),
  ("spec", mkObj [
    ("group", .str group),
    ("names", mkObj [("categories", .arr []), ("kind", .str kind), ("plural", .str plural), ("shortNames", .arr []),
      ("singular", .str "instrumentation")]),
    ("scope", .str "Namespaced"),
    ("versions", .arr [mkObj [
      ("additionalPrinterColumns", .arr [
        column "Platforms" "string" ".spec.settings.autoInstrumentationPlatforms",
        column "Age" "date" ".metadata.creationTimestamp"]),
      ("name", .str version),
      ("schema", .obj [("openAPIV3Schema", resourceSchema)]),
      ("served", .bool true),
      ("storage", .bool true),
      ("subresources", .obj [])]])])]

end Graft.CustomResource
