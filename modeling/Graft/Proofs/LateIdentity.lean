import Graft.Proofs.Lookup
import Graft.Proofs.Mutation
import Graft.Proofs.WorkloadReading

namespace Graft

namespace Fragment

theorem intercalate_append (separator : String) (first : String) (rest : List String) (last : String) :
    String.intercalate separator (first :: rest ++ [last]) =
      String.intercalate separator (first :: rest) ++ separator ++ last := by
  induction rest generalizing first with
  | nil => rfl
  | cons second rest ih => exact ih (first ++ separator ++ second)

/-- A part that is added at the end of others comes last. -/
theorem intercalate_known {front : List (Option String)} {text : String} (member : some text ∈ front) (last : String) :
    String.intercalate "," ((front ++ [some last]).filterMap id) =
      String.intercalate "," ((front ++ [none]).filterMap id) ++ ("," ++ last) := by
  have known : text ∈ front.filterMap id := List.mem_filterMap.mpr ⟨_, member, rfl⟩
  obtain ⟨first, rest, split⟩ := List.exists_cons_of_ne_nil (List.ne_nil_of_mem known)
  rw [List.filterMap_append, List.filterMap_append, split]
  simpa [String.append_assoc] using intercalate_append "," first rest last

/-- The attribute that tells the identity of an owner, behind others. -/
def identityAttribute (kind uid : String) : String := "," ++ ("k8s." ++ kind ++ "." ++ "uid" ++ "=" ++ uid)

/-- An identity that was not known adds an attribute at the end. The kind of the owner must be known, or there is no
name for the attribute. -/
theorem resourceAttributes_identified {pod : PodIdentity} (unknown : pod.ownerUid = none) {kind : String}
    (has : pod.ownerKind = some kind) (uid : String) (cluster : ClusterIdentity) :
    resourceAttributes { pod with ownerUid := some uid } cluster =
      resourceAttributes pod cluster ++ identityAttribute kind uid := by
  unfold resourceAttributes identityAttribute
  simp only [unknown, has]
  refine @intercalate_known [_, _, _, _, _, _, _, _, _, _, _] "cloud.provider=Azure" ?_ _
  simp

end Fragment

namespace Injection

open Json

/-- A variable with more at the end of its value. -/
def lengthenVar (more : String) : Json → Json :=
  onMembers (Keyed.alter "value" (Option.map fun value => match value with
    | .str text => .str (text ++ more)
    | other => other))

/-- The variables of a container with more at the end of the attributes. -/
def lengthenEnv (more : String) : List Json → List Json :=
  expandFirst Fragment.resourceAttributesName fun entry => [lengthenVar more entry]

def lengthenContainer (more : String) : Json → Json :=
  onMembers (Keyed.alter "env" (Option.map (onItems (lengthenEnv more))))

def lengthenPod (more : String) : Members → Members :=
  Keyed.alter "containers" (Option.map (onItems (List.map (lengthenContainer more))))

def lengthenTemplate (more : String) : Members → Members :=
  Keyed.alter "spec" (Option.map (onMembers (lengthenPod more)))

/-- Two loads that differ in what is at the end of the attributes. -/
def Load.Longer (more : String) (load longer : Load) : Prop := ∃ before text after,
  load.env = before ++ ⟨Fragment.resourceAttributesName, .value text⟩ :: after ∧
    longer = { load with env := before ++ ⟨Fragment.resourceAttributesName, .value (text ++ more)⟩ :: after }

/-- What can be made for a pod can be made once its identity is known, and differs at the end of the attributes. -/
theorem Load.exists_longer {resource : Instrumentation} {pod : PodIdentity} {platforms : List Platform}
    {cluster : ClusterIdentity} {load : Load} (made : Load.make resource pod platforms cluster = .ok load)
    (unknown : pod.ownerUid = none) {kind : String} (has : pod.ownerKind = some kind) (uid : String) :
    ∃ longer, Load.make resource { pod with ownerUid := some uid } platforms cluster = .ok longer ∧
      Load.Longer (Fragment.identityAttribute kind uid) load longer := by
  have attributes := Fragment.resourceAttributes_identified unknown has uid cluster
  unfold Load.make Fragment.env at made ⊢
  obtain ⟨initContainers, runInit, made⟩ := Except.bind_eq_ok_iff.mp made
  obtain ⟨volumes, runVolumes, made⟩ := Except.bind_eq_ok_iff.mp made
  obtain ⟨mounts, runMounts, made⟩ := Except.bind_eq_ok_iff.mp made
  obtain ⟨env, runEnv, made⟩ := Except.bind_eq_ok_iff.mp made
  obtain ⟨own, runOwn, runEnv⟩ := Except.bind_eq_ok_iff.mp runEnv
  cases runEnv
  cases made
  rw [runInit, runVolumes, runMounts, runOwn]
  refine ⟨_, rfl, [_, _, _, _], Fragment.resourceAttributes pod cluster, _, rfl, ?_⟩
  rw [← attributes]
  rfl

variable {more : String} {load longer : Load}

theorem lengthenVar_toJson (name text : String) : lengthenVar more (EnvVar.toJson ⟨name, .value text⟩) =
    EnvVar.toJson ⟨name, .value (text ++ more)⟩ := rfl

theorem expandFirst_congr {name : String} {f g : Json → List Json} {entries : List Json} {entry : Json}
    (found : entries.find? (named name) = some entry) (same : f entry = g entry) :
    expandFirst name f entries = expandFirst name g entries := by
  obtain ⟨is, before, after, rfl, earlier⟩ := exists_first found
  rw [expandFirst_of_found earlier is, expandFirst_of_found earlier is, same]

/-- A variable that is set to another value is set in the same place. -/
theorem Env.set_eq_expandFirst {env : List Json} {name : String} {value other : Json}
    (is : named name value = true) :
    Env.set env name other = expandFirst name (fun _ => [other]) (Env.set env name value) := by
  cases found : env.find? (named name) with
  | none =>
    have absent : ∀ entry ∈ env, named name entry = false := fun entry member => by
      simpa using List.find?_eq_none.mp found entry member
    rw [Env.set_of_absent found, Env.set_of_absent found, expandFirst_of_found absent is]
    rfl
  | some entry =>
    obtain ⟨isName, before, after, split, earlier⟩ :=
      exists_first ((Env.find?_filter_of_ne (Env.backupName_ne name).symm env).trans found)
    have notBackup : named name (rename (Convention.backupName name) entry) = false :=
      named_of_ne (named_rename isName) (Env.backupName_ne name)
    simp only [Env.set, any_named_eq_isSome, found, Option.isSome_some, if_true]
    rw [split, expandFirst_of_found earlier isName, expandFirst_of_found earlier isName]
    have apart : ∀ one ∈ before ++ [rename (Convention.backupName name) entry], named name one = false := by
      simpa [or_imp, forall_and, notBackup] using earlier
    simpa using (@expandFirst_of_found _ (fun _ => [other]) _ after _ apart is).symm

/-- The attributes have their turn in both loads after the same steps, and the steps after them are the same. So the two
runs part only there. -/
theorem Load.Longer.exists_steps (h : load.Reversible) (isLonger : Load.Longer more load longer) :
    ∃ earlier text later, longer.Reversible ∧
      load.steps = earlier ++ (Fragment.resourceAttributesName,
        some (EnvVar.toJson ⟨Fragment.resourceAttributesName, .value text⟩)) :: later ∧
      longer.steps = earlier ++ (Fragment.resourceAttributesName,
        some (EnvVar.toJson ⟨Fragment.resourceAttributesName, .value (text ++ more)⟩)) :: later := by
  obtain ⟨before, text, after, split, rfl⟩ := isLonger
  have names : (before ++ ⟨Fragment.resourceAttributesName, .value (text ++ more)⟩ :: after).map EnvVar.name =
      load.env.map EnvVar.name := by simp [split]
  refine ⟨before.map fun var => (var.name, some var.toJson), text,
    (after.map fun var => (var.name, some var.toJson)) ++ load.untouched.map fun name => (name, none), ?_, ?_, ?_⟩
  · refine ⟨h.initContainers, h.volumes, h.mounts, names ▸ h.env, fun var member => ?_⟩
    obtain ⟨own, here, same⟩ := List.mem_map.mp (names ▸ List.mem_map_of_mem member)
    exact same ▸ h.reserved own here
  · simp [Load.steps, split]
  · have untouched : Load.untouched { load with
        env := before ++ ⟨Fragment.resourceAttributesName, .value (text ++ more)⟩ :: after } = load.untouched := by
      have asked (name : String) (vars : List EnvVar) : (vars.any fun e => e.name == name) =
          (vars.map EnvVar.name).any (· == name) := by simp [Function.comp_def]
      simp only [Load.untouched, asked, names]
    rw [Load.steps, untouched]
    simp

/-- The attributes variable is the only one that differs, and only at the end of its value. The list may hold entries of
that name before. -/
theorem injectEnv_longer (h : load.Reversible) (isLonger : Load.Longer more load longer) {env : List Json}
    (unmarked : env.find? (named Convention.marker) = none) :
    injectEnv longer env = lengthenEnv more (injectEnv load env) := by
  obtain ⟨earlier, text, later, longerReversible, steps, longerSteps⟩ := isLonger.exists_steps h
  have within {step : String × Option Json} (member : step ∈ later) : step ∈ load.steps :=
    steps ▸ List.mem_append_right _ (List.mem_cons_of_mem _ member)
  have reserved : Fragment.resourceAttributesName ∈ Fragment.reservedEnv := by decide
  have fresh : ∀ step ∈ later, Fragment.resourceAttributesName ≠ step.1 := by
    have nodup := h.steps_perm.nodup_iff.mpr Fragment.reservedEnv_nodup
    rw [steps, List.map_append, List.map_cons] at nodup
    intro step member same
    have there : step.1 ∈ later.map Prod.fst := List.mem_map_of_mem member
    exact (List.nodup_cons.mp (List.nodup_append.mp nodup).2.1).1 (same ▸ there)
  -- The steps after the attributes leave them as and where they are.
  have ignores := (Env.ignores_steps later primary_reserved (fun step member => load.steps_proper step (within member))
    (fun step member => Load.steps_reserved h.reserved step (within member)) reserved fresh).1
  have notMarker : named Fragment.resourceAttributesName markerEntry = false := (marker_apart _ reserved).1
  rw [injectEnv_eq h.reserved unmarked, injectEnv_eq longerReversible.reserved unmarked, steps, longerSteps,
    List.foldl_append, List.foldl_append, List.foldl_cons, List.foldl_cons, lengthenEnv, expandFirst_append notMarker]
  generalize earlier.foldl Env.change env = reached
  have is (text : String) : named Fragment.resourceAttributesName
      (EnvVar.toJson ⟨Fragment.resourceAttributesName, .value text⟩) = true := named_toJson _
  have found := (ignores.find?_eq _).trans (@Env.find?_set_self reached _ _ (is text))
  refine congrArg (· ++ [markerEntry]) ?_
  calc later.foldl Env.change (Env.set reached Fragment.resourceAttributesName
        (EnvVar.toJson ⟨Fragment.resourceAttributesName, .value (text ++ more)⟩))
    _ = later.foldl Env.change (expandFirst Fragment.resourceAttributesName
          (fun _ => [EnvVar.toJson ⟨Fragment.resourceAttributesName, .value (text ++ more)⟩])
          (Env.set reached Fragment.resourceAttributesName
            (EnvVar.toJson ⟨Fragment.resourceAttributesName, .value text⟩))) := by
      rw [← Env.set_eq_expandFirst (is text)]
    _ = _ := ignores.expandFirst_eq _ (by simpa using is (text ++ more)) _
    _ = _ := expandFirst_congr found (congrArg (fun entry => [entry]) (lengthenVar_toJson _ text).symm)

theorem injectContainer_longer (h : load.Reversible) (isLonger : Load.Longer more load longer) {container result : Json}
    (canonical : container.Canonical) (untouched : Untouched container)
    (run : injectContainer load container = .ok result) :
    injectContainer longer container = .ok (lengthenContainer more result) := by
  obtain ⟨members, rfl, env, mounts, rfl⟩ := injectContainer_eq_ok_iff.mp run
  refine injectContainer_eq_ok_iff.mpr ⟨members, rfl, env, mounts, congrArg Json.obj ?_⟩
  have sorted := canonical.sorted
  have sameMounts : longer.mounts = load.mounts := by
    obtain ⟨_, _, _, _, rfl⟩ := isLonger
    rfl
  have same := injectEnv_longer h isLonger (untouched.env.find?_eq_none List.mem_cons_self)
  rw [(sorted.alter "env" _).alter_comm (by decide), sorted.alter_alter, sameMounts]
  refine congrArg (Keyed.alter "volumeMounts" _) (Keyed.alter_congr ?_)
  exact congrArg (fun env => some (Json.arr env)) same.symm

theorem injectContainers_longer (h : load.Reversible) (isLonger : Load.Longer more load longer)
    {containers results : List Json} (canonical : ∀ container ∈ containers, container.Canonical)
    (untouched : ∀ container ∈ containers, Untouched container)
    (run : injectContainers load containers = .ok results) :
    injectContainers longer containers = .ok (results.map (lengthenContainer more)) := by
  rw [injectContainers_eq_ok_iff] at run ⊢
  induction run with
  | nil => exact .nil
  | @cons container result rest results first _ ih =>
    refine .cons (injectContainer_longer h isLonger (canonical _ List.mem_cons_self)
      (untouched _ List.mem_cons_self) first) ?_
    exact ih (fun other member => canonical other (List.mem_cons_of_mem _ member))
      fun other member => untouched other (List.mem_cons_of_mem _ member)

theorem injectPod_longer (h : load.Reversible) (isLonger : Load.Longer more load longer) {pod result : Members}
    (clean : CleanPod pod) (run : injectPod load pod = .ok result) :
    injectPod longer pod = .ok (lengthenPod more result) := by
  obtain ⟨containers, found, same⟩ := clean.exists_containers
  obtain ⟨volumes, initContainers, injected, each, rfl⟩ := (injectPod_eq_ok_iff found).mp run
  refine (injectPod_eq_ok_iff found).mpr ⟨volumes, initContainers, _, injectContainers_longer h isLonger
    (same ▸ canonical_listed fun _ => clean.canonical.get?) (same ▸ clean.untouched) each, ?_⟩
  obtain ⟨_, _, _, _, rfl⟩ := isLonger
  exact Keyed.alter_insert_self ..

theorem injectTemplate_longer (h : load.Reversible) (isLonger : Load.Longer more load longer)
    {template pod result : Members} (clean : CleanTemplate template pod)
    (run : injectTemplate load template = .ok result) :
    injectTemplate longer template = .ok (lengthenTemplate more result) := by
  obtain ⟨metadata, annotations, injected, inside, rfl⟩ := (injectTemplate_eq_ok_iff clean.atPod).mp run
  refine (injectTemplate_eq_ok_iff clean.atPod).mpr ⟨metadata, annotations, _,
    injectPod_longer h isLonger clean.pod inside, ?_⟩
  obtain ⟨_, _, _, _, rfl⟩ := isLonger
  exact Keyed.alter_insert_self ..

theorem onTemplate_withTemplate (l : Layers) (f : Members → Members) (template : Members) :
    onTemplate f (l.withTemplate template) = l.withTemplate (f template) := by
  have spec : onMembers (Keyed.alter "template" (Option.map (onMembers f)))
      (.obj (l.spec.insert "template" (.obj template))) = .obj (l.spec.insert "template" (.obj (f template))) :=
    congrArg Json.obj (Keyed.alter_insert_self ..)
  exact congrArg Json.obj ((Keyed.alter_insert_self ..).trans (by rw [spec]))

/-- Once an object that nothing has touched is injected, an identity that has become known since is the only thing that
the next call changes: it goes into the attributes variable, behind what was there. The platforms are assumed to be
distinct. -/
theorem Clean.mutate_identified {object : Json} (clean : Clean object) {g : Governing} {state : InjectionState}
    (nodup : g.platforms.Nodup) (run : (mutate object g).outcome = .ok (some state))
    (unknown : g.pod.ownerUid = none) {kind : String} (has : g.pod.ownerKind = some kind) (uid : String) :
    mutate (mutate object g).object { g with pod := { g.pod with ownerUid := some uid } } =
      ⟨onTemplate (lengthenTemplate (Fragment.identityAttribute kind uid)) (mutate object g).object,
        .ok (some state)⟩ := by
  obtain ⟨l, ok⟩ := clean.layers
  rw [clean.mutate_mutate nodup run, clean.mutate_trimmed_eq ok]
  rw [clean.mutate_eq ok] at run ⊢
  obtain ⟨resource, load, result, resourceIs, platforms, made, injected, eq⟩ := Layers.resume_eq_some run
  obtain ⟨longer, madeLonger, isLonger⟩ := Load.exists_longer made unknown has uid
  have again := injectTemplate_longer (Load.reversible platforms nodup made) isLonger (clean.template ok) injected
  rw [eq] at run ⊢
  cases run
  refine Eq.trans (Layers.resume_injected resourceIs platforms madeLonger
    ((injectTemplate_trimTemplate_iff (clean.template ok)).mpr again)) ?_
  obtain ⟨_, _, _, _, rfl⟩ := isLonger
  rw [onTemplate_withTemplate]

end Injection

end Graft
