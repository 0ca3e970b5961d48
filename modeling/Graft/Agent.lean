import Graft.Platform

namespace Graft

/-- The layout of one agent. Its files at `sourcePath` of the image are copied into the volume, which
containers mount at `mountPath`. -/
structure Agent where
  initContainer : String
  repository : String
  tag : String
  sourcePath : String
  volume : String
  mountPath : String
deriving DecidableEq, Repr, Inhabited

namespace Agent

/-- Where agent images come from unless a resource says otherwise. -/
def defaultRepositoryPath : String := "mcr.microsoft.com/applicationinsights"

/-- The volume that agents write their own logs to, and where they expect it. -/
def logsVolume : String := "azure-monitor-auto-instrumentation-volume-logs"

def logsMountPath : String := "/var/log/applicationinsights"

def dotNet : Agent where
  initContainer := "azure-monitor-auto-instrumentation-dotnet"
  repository := "opentelemetry-auto-instrumentation/dotnet"
  tag := "1.0.0-rc.2"
  sourcePath := "/dotnet-tracer-home/."
  volume := "azure-monitor-auto-instrumentation-volume-dotnet"
  mountPath := "/azure-monitor-auto-instrumentation-dotnet"

def java : Agent where
  initContainer := "azure-monitor-auto-instrumentation-java"
  repository := "auto-instrumentation/java"
  tag := "3.5.2-aks"
  sourcePath := "/agents/java/."
  volume := "azure-monitor-auto-instrumentation-volume-java"
  mountPath := "/azure-monitor-auto-instrumentation-java"

def nodeJs : Agent where
  initContainer := "azure-monitor-auto-instrumentation-nodejs"
  repository := "opentelemetry-auto-instrumentation/nodejs"
  tag := "3.1.0"
  sourcePath := "/agents/nodejs/."
  volume := "azure-monitor-auto-instrumentation-volume-nodejs"
  mountPath := "/azure-monitor-auto-instrumentation-nodejs"

end Agent

/-- The agent of a platform, if it has one. -/
def Platform.agent? : Platform → Option Agent
  | .dotNet => some Agent.dotNet
  | .java => some Agent.java
  | .nodeJs => some Agent.nodeJs
  | .openTelemetry => none

end Graft
