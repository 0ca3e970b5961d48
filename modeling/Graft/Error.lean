import Graft.Api.Error
import Graft.Certificate.Error

namespace Graft

/-- What an injection needs of an object and does not find. -/
inductive Malformation where
  | noSpec
  | noTemplate
  | noTemplateSpec
  | containersNotList
  | notObject (key : String)
  | notList (key : String)
  | containerNotObject
  | noName
  /-- A complaint of someone else, in their words. -/
  | reported (text : String)
deriving DecidableEq, Repr, Inhabited

def Malformation.message : Malformation → String
  | noSpec => "object has no spec"
  | noTemplate => "spec has no template"
  | noTemplateSpec => "template has no spec"
  | containersNotList => "template containers is not a list"
  | notObject key => key ++ " is not an object"
  | notList key => key ++ " is not a list"
  | containerNotObject => "container is not an object"
  | noName => "deployment has no name"
  | reported text => text

/-- What keeps an admission request from being worked on. -/
inductive Objection where
  | operation (name : String)
  | kind (name : String)
  | noObject
  | noSpec
  | noNamespace
deriving DecidableEq, Repr

def Objection.message : Objection → String
  | operation name => "unsupported operation " ++ name
  | kind name => "unsupported kind " ++ name
  | noObject => "request carries no object"
  | noSpec => "object has no spec"
  | noNamespace => "could not determine the object's namespace"

/-- What a platform without an agent was asked for. -/
inductive Purpose where
  | parse
  | initContainers
  | volumes
  | volumeMounts
  | env
deriving DecidableEq, Repr

def Purpose.name : Purpose → String
  | parse => "parse"
  | initContainers => "init_containers"
  | volumes => "volumes"
  | volumeMounts => "volume_mounts"
  | env => "env"

/-- How the work on workloads fails. -/
inductive Error where
  | unsupportedPlatform (purpose : Purpose) (platform : String)
  /-- The inject annotations name several resources. -/
  | conflictingSelection (names : List String)
  | malformedObject (cause : Malformation)
  | invalidRequest (cause : Objection)
  | invalidArmId (id : String)
  | kube (cause : Api.Error)
  | certificate (cause : Certificate.Error)
  /-- The webhook configuration that should trust a certificate does not exist. -/
  | noWebhookConfiguration (name : String)
deriving DecidableEq, Repr

def Error.message : Error → String
  | unsupportedPlatform purpose platform => "unsupported platform in " ++ purpose.name ++ "(): " ++ platform
  | conflictingSelection names =>
    "conflicting instrumentation selection in inject-* annotations: " ++ String.intercalate ", " names
  | malformedObject cause => "malformed object: " ++ cause.message
  | invalidRequest cause => "invalid admission request: " ++ cause.message
  | invalidArmId id => "invalid ARM resource id: " ++ id
  | kube cause => "kubernetes error: " ++ cause.message
  | certificate cause => "certificate error: " ++ cause.message
  | noWebhookConfiguration name => "certificate error: MutatingWebhookConfiguration " ++ name ++ " not found"

end Graft
