import Graft.ObjectMeta
import Graft.Platform

namespace Graft

open Json

/-- Which logs an instrumented workload leaves out. -/
structure LogCollection where
  disableAppLogs : Option Bool := none
  disableContainerLogs : Option Bool := none
deriving DecidableEq, Repr, Inhabited

/-- The resource that governs how the workloads of its namespace are instrumented. -/
structure Instrumentation where
  metadata : ObjectMeta
  platforms : List Platform := []
  imageRepositoryPath : Option String := none
  logCollection : Option LogCollection := none
  connectionString : String
deriving DecidableEq, Inhabited

/-- The resource named so applies to every workload that picks no other. -/
def Instrumentation.defaultName : String := "default"

def LogCollection.read : Reader LogCollection := fun d => do
  let flag := Reader.check (Reader.optional Reader.bool)
  let r ← Record.read [("disableAppLogs", flag), ("disableContainerLogs", flag)] d
  return {
    disableAppLogs := ← r.optional "disableAppLogs" Reader.bool
    disableContainerLogs := ← r.optional "disableContainerLogs" Reader.bool }

def LogCollection.toJson (l : LogCollection) : Json := ofFields [
  ("disableAppLogs", l.disableAppLogs.map .bool),
  ("disableContainerLogs", l.disableContainerLogs.map .bool)]

namespace Instrumentation

def name (i : Instrumentation) : String := i.metadata.displayName

def resourceVersion (i : Instrumentation) : String := i.metadata.resourceVersion.getD ""

/-- Application logs are collected unless the resource says otherwise. -/
def appLogsEnabled (i : Instrumentation) : Bool := !((i.logCollection.bind (·.disableAppLogs)).getD false)

/-- Whether container logs are left out, if the resource says. -/
def containerLogsDisabled (i : Instrumentation) : Option Bool := i.logCollection.bind (·.disableContainerLogs)

/-- The settings part of a specification. -/
structure Settings where
  platforms : List Platform := []
  imageRepositoryPath : Option String := none
  logCollection : Option LogCollection := none
deriving DecidableEq, Repr, Inhabited

def Settings.read : Reader Settings := fun d => do
  let r ← Record.read [("autoInstrumentationPlatforms", Reader.check (Reader.list Platform.read)),
    ("imageRepositoryPath", Reader.check (Reader.optional Reader.string)),
    ("logCollectionSettings", Reader.check (Reader.optional LogCollection.read))] d
  return {
    platforms := ← r.orElse "autoInstrumentationPlatforms" (Reader.list Platform.read) []
    imageRepositoryPath := ← r.optional "imageRepositoryPath" Reader.string
    logCollection := ← r.optional "logCollectionSettings" LogCollection.read }

/-- The destination part of a specification is its connection string. -/
def readDestination : Reader String := fun d => do
  let r ← Record.read [("applicationInsightsConnectionString", Reader.check Reader.string)] d
  r.required "applicationInsightsConnectionString" Reader.string

def readSpec : Reader (Settings × String) := fun d => do
  let r ← Record.read [("settings", Reader.check Settings.read), ("destination", Reader.check readDestination)] d
  return (← r.orElse "settings" Settings.read {}, ← r.required "destination" readDestination)

/-- Reads a resource; its kind and version are not looked at. -/
def read : Reader Instrumentation := fun d => do
  let r ← Record.read [("metadata", Reader.check ObjectMeta.read), ("spec", Reader.check readSpec)] d
  let metadata ← r.required "metadata" ObjectMeta.read
  let (settings, connectionString) ← r.required "spec" readSpec
  return {
    metadata, connectionString
    platforms := settings.platforms
    imageRepositoryPath := settings.imageRepositoryPath
    logCollection := settings.logCollection }

def ofJson? (j : Json) : Option Instrumentation := (read j.draft).toOption

def toJson (i : Instrumentation) : Json := .obj [
  ("apiVersion", .str "monitor.azure.com/v1"),
  ("kind", .str "Instrumentation"),
  ("metadata", i.metadata.toJson),
  ("spec", .obj [
    ("destination", .obj [("applicationInsightsConnectionString", .str i.connectionString)]),
    ("settings", ofFields [
      ("autoInstrumentationPlatforms", some (.arr (i.platforms.map Platform.toJson))),
      ("imageRepositoryPath", i.imageRepositoryPath.map .str),
      ("logCollectionSettings", i.logCollection.map LogCollection.toJson)])])]

end Instrumentation

end Graft
