import Graft.Injection.Template
import Graft.Json.Patch

namespace Graft.Injection

/-- Whether any container carries the marker of an injection. -/
def isInjected (object : Json) : Bool :=
  (PodIdentity.containers object).any fun container =>
    (((container.get? "env").bind Json.arr?).getD []).any (named Convention.marker)

/-- Whether an object carries traces that a reversal should remove. -/
def needsCleanup (object : Json) : Bool := (InjectionState.annotation? object).isSome || isInjected object

/-- The nested parts of an object that an injection works in. -/
structure Layers where
  object : Members
  spec : Members
  template : Members
  pod : Members

/-- The layers of an object that is fit for injection. -/
def layers (object : Json) : Except Malformation Layers := do
  let some (.obj spec) := object.get? "spec" | throw .noSpec
  let some (.obj template) := Keyed.get? "template" spec | throw .noTemplate
  let some (.obj pod) := Keyed.get? "spec" template | throw .noTemplateSpec
  match Keyed.get? "containers" pod with
  | none | some (.arr _) => return { object := object.obj?.getD [], spec, template, pod }
  | some _ => throw .containersNotList

/-- The object with another template. -/
def Layers.withTemplate (l : Layers) (template : Members) : Json :=
  .obj (l.object.insert "spec" (.obj (l.spec.insert "template" (.obj template))))

/-- The template without what an injection put there. -/
def Layers.reverted (l : Layers) (injected : Bool) : Members :=
  (revertMetadata injected l.template).insert "spec" (.obj (revertPod injected l.pod))

/-- Injects into a template. -/
def injectTemplate (load : Load) (template : Members) : Step Members :=
  (injectMetadata load template).andThen fun template =>
    match template.get? "spec" with
    | some (.obj pod) => Step.within (fun pod => template.insert "spec" (.obj pod)) (injectPod load pod)
    | _ => stop .noTemplateSpec template

/-- What governs an injection. -/
structure Governing where
  resource : Option Instrumentation := none
  pod : PodIdentity := {}
  platforms : List Platform := []
  cluster : ClusterIdentity := {}

/-- The object that an injection leaves behind, and either the state that it recorded there or the error that
stopped it. -/
structure Mutation where
  object : Json
  outcome : Except Error (Option InjectionState)

/-- Reverts an object and injects anew if there is a resource and any platform. What an earlier call put in is taken out
first, whichever resource asked for it; an object without the parts of a workload is left as it is. -/
def mutate (object : Json) (g : Governing) : Mutation :=
  match layers object with
  | .error cause => ⟨object, .error (.malformedObject cause)⟩
  | .ok l =>
    let template := l.reverted (isInjected object)
    match g.resource with
    | none => ⟨l.withTemplate template, .ok none⟩
    | some resource =>
      if g.platforms.isEmpty then ⟨l.withTemplate template, .ok none⟩
      else match Load.make resource g.pod g.platforms g.cluster with
        | .error e => ⟨l.withTemplate template, .error e⟩
        | .ok load =>
          match injectTemplate load template with
          | .error stopped => ⟨l.withTemplate stopped.reached, .error stopped.error⟩
          | .ok injected => ⟨l.withTemplate injected, .ok (some load.state)⟩

def annotationsPath : Json.Pointer := ⟨["spec", "template", "metadata", "annotations"]⟩

def statePath : Json.Pointer := ⟨annotationsPath.tokens ++ [Convention.stateAnnotation]⟩

/-- Operations that make the parents of the state annotation. -/
def missingParents (object : Json) : Json.Patch :=
  match object.path? ["spec", "template", "metadata"] with
  | none => [.add ⟨["spec", "template", "metadata"]⟩ (.obj []), .add annotationsPath (.obj [])]
  | some metadata => if (metadata.get? "annotations").isNone then [.add annotationsPath (.obj [])] else []

/-- Operations that set the state annotation, or clear it: it is added first so that there is one to remove. -/
def stateOperations : Option InjectionState → Json.Patch
  | some state => [.add statePath (.str state.text)]
  | none => [.add statePath (.str ""), .remove statePath]

/-- The patch that turns an object into its injected or reverted form. It sets or clears the state annotation first and
then replaces the whole object by what `mutate` leaves; an object that `mutate` cannot inject has none. -/
def patch (object : Json) (g : Governing) : Except Error Json.Patch := do
  let mutation := mutate object g
  let state ← mutation.outcome
  return missingParents object ++ stateOperations state ++ [.replace ⟨[]⟩ mutation.object]

end Graft.Injection
