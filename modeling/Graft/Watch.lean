import Graft.Api.Exchange
import Graft.Api.Listing
import Graft.Registry
import Graft.Watch.Line

namespace Graft.Watch

/-- What can go wrong; none of it ends the watch. -/
inductive Failure where
  | listing (e : Api.Error)
  | start (e : Api.Error)
  | stream (e : Api.Error)
  | refused (r : Api.ErrorResponse)
  | noVersion
deriving DecidableEq, Repr

def Failure.message : Failure → String
  | listing e => "failed to perform initial object list: " ++ e.message
  | start e => "failed to start watching object: " ++ e.message
  | stream e => "watch stream failed: " ++ e.message
  | refused r => "error returned by apiserver during watch: " ++ r.message ++ ": " ++ r.reason
  | noVersion => "no metadata.resourceVersion in watch result (does resource support watch?)"

abbrev Report := Except Failure WatchEvent

/-- What is asked for next: a page of the list, or the changes since a version. When the server has forgotten that
version, the list starts over. -/
inductive Phase where
  | page (token : Option String)
  | changes (version : String)
deriving DecidableEq, Repr

def collection : Api.Collection := { group := "monitor.azure.com", version := "v1", plural := "instrumentations" }

/-- How many items a page may have, and how long a watch may take in seconds. -/
def pageSize : String := "500"

def watchSeconds : String := "290"

def Phase.request : Phase → Api.Request
  | page none => { path := collection.path, params := [("limit", pageSize)] }
  | page (some token) => { path := collection.path, params := [("continue", token), ("limit", pageSize)] }
  | changes version => {
      path := collection.path
      params := [("allowWatchBookmarks", "true"), ("resourceVersion", version), ("timeoutSeconds", watchSeconds),
        ("watch", "true")] }

/-- Reports, and what is asked for after them. -/
structure Progress where
  reports : List Report
  phase : Phase

/-- The list from its beginning. -/
def Progress.listing (before : List Report) : Progress := ⟨before ++ [.ok .listing], .page none⟩

/-- What follows from a page of the list. -/
def ofPage : Except Api.Error (Api.Listing Instrumentation) → Progress
  | .error e => .listing [.error (.listing e)]
  | .ok l =>
    let items : List Report := l.items.map fun i => .ok (.listingItem i)
    match l.next, l.resourceVersion with
    | some token, _ => ⟨items, .page (some token)⟩
    | none, some version => ⟨items ++ [.ok .listed], .changes version⟩
    | none, none => .listing [.error .noVersion]

/-- What follows from the lines of a watch. A change without a version and a version that is gone make the list
start over. -/
def ofLines (version : String) : List (Except Api.Error Line) → Progress
  | [] => ⟨[], .changes version⟩
  | .error e :: rest =>
    let p := ofLines version rest
    { p with reports := .error (.stream e) :: p.reports }
  | .ok (.changed i) :: rest =>
    if i.resourceVersion = "" then .listing [.error .noVersion]
    else
      let p := ofLines i.resourceVersion rest
      { p with reports := .ok (.applied i) :: p.reports }
  | .ok (.deleted i) :: rest =>
    if i.resourceVersion = "" then .listing [.error .noVersion]
    else
      let p := ofLines i.resourceVersion rest
      { p with reports := .ok (.deleted i) :: p.reports }
  | .ok (.bookmark version) :: rest => ofLines version rest
  | .ok (.refused r) :: _ =>
    if r.code = 410 then .listing [.error (.refused r)] else ⟨[.error (.refused r)], .changes version⟩

/-- What follows from the answer to a phase's request. -/
def Phase.answered : Phase → Except String Api.Response → Progress
  | page _, .ok response => ofPage (response.value (Api.Listing.read Instrumentation.read))
  | page _, .error cause => ofPage (.error (.service cause))
  | changes version, .ok response => ofLines version (Line.ofBody response.body)
  | changes version, .error cause => ⟨[.error (.start (.service cause))], .changes version⟩

/-- A registry that follows the reports, and what the heartbeat hears of them. -/
structure Following where
  follower : Follower := {}
  heartbeat : Heartbeat := {}

namespace Following

/-- Every report counts as a call; a complete listing tells how many resources there are. -/
def take (f : Following) : Report → Following
  | .error failure => { f with
      heartbeat := ((f.heartbeat.count .apiCalls).count .failedApiCalls).append .apiServer failure.message }
  | .ok event =>
    let follower := f.follower.handle event
    let heartbeat := f.heartbeat.count .apiCalls
    { follower, heartbeat := match event with
        | .listed => heartbeat.add .resources (Double.ofInt follower.registry.length)
        | _ => heartbeat }

/-- Follows a server that answers one request after another and in the end no more. Everything that is learnt is
reported in order and taken into the registry. Returns the requests made, the last of them without an answer. -/
def follow (f : Following) (p : Progress) : List (Except String Api.Response) → Following × List Api.Request
  | [] => (p.reports.foldl take f, [p.phase.request])
  | answer :: rest =>
    let (f, requests) := follow (p.reports.foldl take f) (p.phase.answered answer) rest
    (f, p.phase.request :: requests)

/-- Follows a server from the first listing on. -/
def start (f : Following) (answers : List (Except String Api.Response)) : Following × List Api.Request :=
  f.follow (.listing []) answers

end Following

end Graft.Watch
