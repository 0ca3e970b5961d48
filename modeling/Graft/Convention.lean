namespace Graft.Convention

/-- The template annotation that records the state of an injection. This and the names below are read back from
workloads that were changed long ago, so they do not change. -/
def stateAnnotation : String := "monitor.azure.com/instrumentation"

/-- The template annotation that keeps container logs out, and its shadow: the customer's own value. -/
def logsAnnotation : String := "fluentbit.io/exclude"

def logsShadow : String := "fluentbit.io/exclude_before_auto_instrumentation"

/-- What the name of a variable's backup ends in. -/
def backupSuffix : String := "_BEFORE_AUTO_INSTRUMENTATION"

def backupName (name : String) : String := name ++ backupSuffix

/-- The variable that every injected container carries. -/
def marker : String := "AZURE_MONITOR_AUTO_INSTRUMENTATION_MUTATED"

end Graft.Convention
