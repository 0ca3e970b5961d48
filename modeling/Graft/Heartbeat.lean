import Graft.Assoc
import Graft.Double
import Graft.Keyed

namespace Graft

inductive Metric where
  | admissionReviews
  | actionableReviews
  | failedReviews
  | apiCalls
  | failedApiCalls
  | resources
  | secretWrites
  | failedSecretWrites
  | webhookUpdates
  | cleanedWorkloads
deriving DecidableEq, Repr

inductive ErrorLog where
  | apiServer
  | admission
deriving DecidableEq, Repr

namespace Metric

def name : Metric → String
  | admissionReviews => "AdmissionReviewCount"
  | actionableReviews => "AdmissionReviewActionableCount"
  | failedReviews => "AdmissionReviewActionableFailedCount"
  | apiCalls => "ApiServerCallCount"
  | failedApiCalls => "ApiServerCallErrorCount"
  | resources => "CrCount"
  | secretWrites => "SecretStoreUpdatedCount"
  | failedSecretWrites => "SecretStoreUpdateFailedCount"
  | webhookUpdates => "WebhookConfigUpdatedCount"
  | cleanedWorkloads => "CleanupPatchedCount"

def all : List Metric := [admissionReviews, actionableReviews, failedReviews, apiCalls, failedApiCalls, resources,
  secretWrites, failedSecretWrites, webhookUpdates, cleanedWorkloads]

def ofName? (text : String) : Option Metric := all.find? (·.name == text)

end Metric

namespace ErrorLog

def name : ErrorLog → String
  | apiServer => "ApiServerTopExceptionsEncountered"
  | admission => "AdmissionReviewTopExceptionsEncountered"

def ofName? (text : String) : Option ErrorLog := [apiServer, admission].find? (·.name == text)

end ErrorLog

/-- What has been collected since the last heartbeat. A log keeps a bounded number of distinct entries, the first ones,
and counts how often each came. The counts have no bound here; a count in a word of 64 bits is the same as long as no
entry has come 2⁶⁴ times between two heartbeats. -/
structure Heartbeat where
  bound : Nat := 10
  metrics : Assoc Metric Double := []
  logs : Assoc ErrorLog (Assoc String Nat) := []
deriving DecidableEq, Repr, Inhabited

/-- What a heartbeat reports, by name. The most frequent entries of a log come first. -/
structure Snapshot where
  metrics : Keyed Double
  logs : Keyed (List (String × Nat))
deriving DecidableEq, Repr

namespace Heartbeat

def add (h : Heartbeat) (metric : Metric) (value : Double) : Heartbeat :=
  { h with metrics := h.metrics.set metric ((h.metrics.get? metric).getD Double.zero + value) }

/-- Counts one event. -/
def count (h : Heartbeat) (metric : Metric) : Heartbeat := h.add metric (Double.ofInt 1)

/-- Counts an entry of a log, if it is there or there is room for it. -/
def countEntry (bound : Nat) (entries : Assoc String Nat) (entry : String) : Assoc String Nat :=
  match entries.get? entry with
  | some n => entries.set entry (n + 1)
  | none => if entries.length < bound then entries.set entry 1 else entries

def append (h : Heartbeat) (log : ErrorLog) (entry : String) : Heartbeat :=
  { h with logs := h.logs.set log (countEntry h.bound ((h.logs.get? log).getD []) entry) }

/-- The order of reported entries: by count, the greater first, then by text. -/
def precedes (a b : String × Nat) : Bool := b.2 < a.2 || a.2 == b.2 && !(decide (b.1 < a.1))

def snapshot (h : Heartbeat) : Snapshot where
  metrics := Keyed.ofList (h.metrics.map fun e => (e.1.name, e.2))
  logs := Keyed.ofList (h.logs.map fun e => (e.1.name, e.2.mergeSort precedes))

/-- Reports everything and starts over. -/
def take (h : Heartbeat) : Snapshot × Heartbeat := (h.snapshot, { bound := h.bound })

end Heartbeat

/-- A heartbeat that reports by itself at every multiple of a period, on a clock in milliseconds. -/
structure Beating where
  heartbeat : Heartbeat
  now : Nat := 0
  /-- When the beating began, and its period. -/
  rhythm : List (Nat × Nat) := []

namespace Beating

def start (b : Beating) (period : Nat) : Beating := { b with rhythm := (b.now, period) :: b.rhythm }

/-- Whether a rhythm beats at or after a point in time and before another; it does not beat at its start. -/
def beats (since until_ : Nat) (rhythm : Nat × Nat) : Bool :=
  let (start, period) := rhythm
  let next := if since ≤ start then 1 else (since - start + period - 1) / period
  0 < period && start + next * period < until_

/-- Lets time pass. What is collected is gone if a beat fell into that time. -/
def sleep (b : Beating) (milliseconds : Nat) : Beating :=
  let until_ := b.now + milliseconds
  { b with
    now := until_
    heartbeat := if b.rhythm.any (beats b.now until_) then b.heartbeat.take.2 else b.heartbeat }

end Beating

end Graft
