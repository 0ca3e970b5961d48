import Graft.Injection.Template
import Graft.Proofs.Backup
import Mathlib.Data.List.Perm.Basic
import Mathlib.Data.List.Nodup

namespace Graft

theorem Platform.agent?_isSome_iff {p : Platform} : p.agent?.isSome = true ↔ p ∈ Platform.supported := by
  cases p <;> decide

theorem Platform.mem_supported_iff {p : Platform} : p ∈ Platform.supported ↔ p ≠ .openTelemetry := by
  cases p <;> decide

namespace Fragment

/-- One name for each platform that has an agent. -/
def agentNames (field : Agent → String) (platforms : List Platform) : List String :=
  platforms.filterMap fun p => p.agent?.map field

theorem mem_agentNames_supported {field : Agent → String} {platforms : List Platform} {name : String}
    (member : name ∈ agentNames field platforms) : name ∈ agentNames field Platform.supported := by
  obtain ⟨p, _, found⟩ := List.mem_filterMap.mp member
  refine List.mem_filterMap.mpr ⟨p, Platform.agent?_isSome_iff.mp ?_, found⟩
  obtain ⟨agent, has, _⟩ := Option.map_eq_some_iff.mp found
  exact has ▸ rfl

section Supported

variable {α β : Type} {purpose : Purpose} {platforms : List Platform}

/-- A result that takes an agent for each of some platforms. There is only one platform without an agent. -/
def ifSupported (purpose : Purpose) (platforms : List Platform) (result : α) : Except Error α :=
  if .openTelemetry ∈ platforms then .error (.unsupportedPlatform purpose "OpenTelemetry") else .ok result

theorem ifSupported_eq_ok_iff {result made : α} : ifSupported purpose platforms result = .ok made ↔
    (∀ p ∈ platforms, p ∈ Platform.supported) ∧ result = made := by
  have supported_iff : (∀ p ∈ platforms, p ∈ Platform.supported) ↔ .openTelemetry ∉ platforms := by
    simp only [Platform.mem_supported_iff]
    exact ⟨fun none member => none _ member rfl, fun absent _ member is => absent (is ▸ member)⟩
  rw [ifSupported, supported_iff]
  split <;> simp [*]

theorem map_ifSupported (f : α → β) (result : α) :
    (ifSupported purpose platforms result).map f = ifSupported purpose platforms (f result) := by
  unfold ifSupported
  split <;> rfl

/-- What is made for each platform from its agent. The first platform without an agent stops the making, and then
nothing is made. -/
theorem mapM_agentFor_eq (purpose : Purpose) (make : Platform → Agent → α) (platforms : List Platform) :
    (platforms.mapM fun p => do return make p (← agentFor purpose p)) =
      ifSupported purpose platforms (platforms.filterMap fun p => p.agent?.map (make p)) := by
  induction platforms with
  | nil => rfl
  | cons p rest ih =>
    rw [List.mapM_cons, ih]
    cases has : p.agent? with
    | none =>
      have is : p = .openTelemetry := by
        cases p <;> first | rfl | cases has
      subst is
      rw [ifSupported, ifSupported, if_pos (List.mem_cons_self (l := rest))]
      rfl
    | some agent =>
      have ne : Platform.openTelemetry ≠ p := by
        rintro rfl
        cases has
      by_cases later : .openTelemetry ∈ rest
      · simp [ifSupported, agentFor, has, later, bind, Except.bind, pure, Except.pure]
      · simp [ifSupported, agentFor, has, ne, later, bind, Except.bind, pure, Except.pure]

/-- What is made of all that is made for the platforms. -/
theorem bind_agentFor_eq (purpose : Purpose) (make : Platform → Agent → α) (finish : List α → β)
    (platforms : List Platform) :
    ((platforms.mapM fun p => do return make p (← agentFor purpose p)) >>= fun own => pure (finish own)) =
      ifSupported purpose platforms (finish (platforms.filterMap fun p => p.agent?.map (make p))) := by
  rw [mapM_agentFor_eq]
  exact map_ifSupported finish _

end Supported

theorem initContainers_eq (platforms : List Platform) (path : Option String) : initContainers platforms path =
    ifSupported .initContainers platforms (platforms.filterMap fun p => p.agent?.map fun agent =>
      ⟨agent.initContainer, repositoryPath path ++ "/" ++ agent.repository ++ ":" ++ agent.tag, agent⟩) :=
  mapM_agentFor_eq ..

/-- Fragments of the agents and, if there is any, the one that all share. -/
def withShared {α : Type} (own : List α) (shared : α) : List α := own ++ if own.isEmpty then [] else [shared]

theorem volumes_eq (platforms : List Platform) : volumes platforms = ifSupported .volumes platforms
    (withShared (platforms.filterMap fun p => p.agent?.map fun agent => ⟨agent.volume⟩) ⟨Agent.logsVolume⟩) :=
  bind_agentFor_eq .volumes _ (withShared · _) platforms

theorem mounts_eq (platforms : List Platform) : mounts platforms = ifSupported .volumeMounts platforms
    (withShared (platforms.filterMap fun p => p.agent?.map fun agent => ⟨agent.volume, agent.mountPath⟩)
      ⟨Agent.logsVolume, Agent.logsMountPath⟩) :=
  bind_agentFor_eq .volumeMounts _ (withShared · _) platforms

/-- The variables that one platform adds. -/
def ownEnv (appLogs : Bool) (p : Platform) : List EnvVar := loaderEnv p ++ if appLogs then [] else logsOffEnv p

theorem ownEnv_of_no_agent (appLogs : Bool) {p : Platform} (none : p.agent? = none) : ownEnv appLogs p = [] := by
  cases p with
  | openTelemetry => cases appLogs <;> rfl
  | _ => cases none

theorem env_eq (pod : PodIdentity) (platforms : List Platform) (appLogs : Bool) (connectionString : String)
    (cluster : ClusterIdentity) : env pod platforms appLogs connectionString cluster =
      ifSupported .env platforms (commonEnv pod connectionString cluster ++ platforms.flatMap (ownEnv appLogs)) := by
  have own : (platforms.filterMap fun p => p.agent?.map fun _ => ownEnv appLogs p).flatten =
      platforms.flatMap (ownEnv appLogs) := by
    induction platforms with
    | nil => rfl
    | cons p rest ih =>
      cases has : p.agent? with
      | none => simp [has, ownEnv_of_no_agent appLogs has, ih]
      | some agent => simp [has, ih]
  rw [← own]
  exact bind_agentFor_eq .env (fun p _ => ownEnv appLogs p) (commonEnv pod connectionString cluster ++ ·.flatten) platforms

theorem agentNames_ne_nil {field : Agent → String} {platforms : List Platform}
    (supported : ∀ p ∈ platforms, p ∈ Platform.supported) (some : platforms ≠ []) :
    agentNames field platforms ≠ [] := by
  obtain ⟨p, rest, rfl⟩ := List.exists_cons_of_ne_nil some
  obtain ⟨agent, has⟩ := Option.isSome_iff_exists.mp
    (Platform.agent?_isSome_iff.mpr (supported p List.mem_cons_self))
  simp [agentNames, has]

/-- The names of the volumes for some platforms, and of their mounts: each agent has its own, and all share one. -/
def volumeNames (platforms : List Platform) : List String := agentNames Agent.volume platforms ++ [Agent.logsVolume]

section Names

variable {platforms : List Platform}

theorem map_filterMap_agent? {α : Type} {field : Agent → String} {make : Agent → α} {name : α → String}
    (same : ∀ agent, name (make agent) = field agent) (platforms : List Platform) :
    (platforms.filterMap fun p => p.agent?.map make).map name = agentNames field platforms := by
  rw [List.map_filterMap]
  simp [agentNames, Option.map_map, Function.comp_def, same]

theorem map_withShared {α : Type} (name : α → String) (own : List α) (shared : α) :
    (withShared own shared).map name = withShared (own.map name) (name shared) := by
  cases own <;> simp [withShared]

theorem initContainers_named (platforms : List Platform) (path : Option String) :
    (initContainers platforms path).map (List.map InitContainer.name) =
      ifSupported .initContainers platforms (agentNames Agent.initContainer platforms) := by
  rw [initContainers_eq, map_ifSupported, map_filterMap_agent? fun _ => rfl]

theorem volumes_named (platforms : List Platform) : (volumes platforms).map (List.map Volume.name) =
    ifSupported .volumes platforms (withShared (agentNames Agent.volume platforms) Agent.logsVolume) := by
  rw [volumes_eq, map_ifSupported, map_withShared, map_filterMap_agent? fun _ => rfl]

theorem mounts_named (platforms : List Platform) : (mounts platforms).map (List.map Mount.name) =
    ifSupported .volumeMounts platforms (withShared (agentNames Agent.volume platforms) Agent.logsVolume) := by
  rw [mounts_eq, map_ifSupported, map_withShared, map_filterMap_agent? fun _ => rfl]

theorem names_of_named {α : Type} {name : α → String} {made : Except Error (List α)} {purpose : Purpose}
    {names : List String} (named : made.map (List.map name) = ifSupported purpose platforms names)
    {fragments : List α} (run : made = .ok fragments) :
    (∀ p ∈ platforms, p ∈ Platform.supported) ∧ fragments.map name = names := by
  rw [run] at named
  obtain ⟨supported, same⟩ := ifSupported_eq_ok_iff.mp named.symm
  exact ⟨supported, same.symm⟩

theorem initContainers_names {path : Option String} {made : List InitContainer}
    (run : initContainers platforms path = .ok made) :
    made.map InitContainer.name = agentNames Agent.initContainer platforms :=
  (names_of_named (initContainers_named platforms path) run).2

theorem withShared_agentNames (supported : ∀ p ∈ platforms, p ∈ Platform.supported) (some : platforms ≠ []) :
    withShared (agentNames Agent.volume platforms) Agent.logsVolume = volumeNames platforms := by
  have own : (agentNames Agent.volume platforms).isEmpty = false :=
    List.isEmpty_eq_false_iff.mpr (agentNames_ne_nil supported some)
  simp [withShared, own, volumeNames]

theorem withShared_subset {α : Type} (own : List α) (shared : α) : withShared own shared ⊆ own ++ [shared] := by
  cases own with
  | nil => exact List.nil_subset _
  | cons => exact List.Subset.refl _

theorem volumeNames_subset (platforms : List Platform) : volumeNames platforms ⊆ reservedVolumes := by
  intro name member
  rcases List.mem_append.mp member with own | shared
  · exact List.mem_append_left _ (mem_agentNames_supported own)
  · exact List.mem_append_right _ shared

theorem volumes_names {made : List Volume} (some : platforms ≠ []) (run : volumes platforms = .ok made) :
    made.map Volume.name = volumeNames platforms := by
  obtain ⟨supported, names⟩ := names_of_named (volumes_named platforms) run
  rw [names, withShared_agentNames supported some]

theorem mounts_names {made : List Mount} (some : platforms ≠ []) (run : mounts platforms = .ok made) :
    made.map Mount.name = volumeNames platforms := by
  obtain ⟨supported, names⟩ := names_of_named (mounts_named platforms) run
  rw [names, withShared_agentNames supported some]

end Names

theorem env_eq_ok {pod : PodIdentity} {platforms : List Platform} {appLogs : Bool} {connectionString : String}
    {cluster : ClusterIdentity} {made : List EnvVar}
    (run : env pod platforms appLogs connectionString cluster = .ok made) :
    (∀ p ∈ platforms, p ∈ Platform.supported) ∧
      made = commonEnv pod connectionString cluster ++ platforms.flatMap (ownEnv appLogs) := by
  rw [env_eq] at run
  obtain ⟨supported, same⟩ := ifSupported_eq_ok_iff.mp run
  exact ⟨supported, same.symm⟩

/-- What is known of a pod and its cluster, and where the telemetry goes, changes values, not names. -/
theorem commonEnv_names (pod : PodIdentity) (connectionString : String) (cluster : ClusterIdentity) :
    (commonEnv pod connectionString cluster).map EnvVar.name = (commonEnv {} "" {}).map EnvVar.name := rfl

theorem env_names_reserved {pod : PodIdentity} {platforms : List Platform} {appLogs : Bool} {connectionString : String}
    {cluster : ClusterIdentity} {made : List EnvVar}
    (run : env pod platforms appLogs connectionString cluster = .ok made) :
    ∀ var ∈ made, var.name ∈ reservedEnv := by
  obtain ⟨supported, rfl⟩ := env_eq_ok run
  intro var member
  rw [reservedEnv, List.map_append]
  rcases List.mem_append.mp member with common | own
  · rw [← commonEnv_names pod connectionString cluster]
    exact List.mem_append_left _ (List.mem_map_of_mem common)
  · obtain ⟨p, here, isOwn⟩ := List.mem_flatMap.mp own
    refine List.mem_append_right _ (List.mem_map_of_mem (List.mem_flatMap.mpr ⟨p, supported p here, ?_⟩))
    rcases List.mem_append.mp isOwn with loader | switch
    · exact List.mem_append_left _ loader
    · cases appLogs with
      | true => cases switch
      | false => exact List.mem_append_right _ switch

theorem ownEnv_names_nodup (appLogs : Bool) (p : Platform) : ((ownEnv appLogs p).map EnvVar.name).Nodup := by
  cases appLogs <;> cases p <;> decide

/-- No variable belongs to two platforms, be logs collected or not. -/
theorem ownEnv_names_disjoint (appLogs : Bool) {p q : Platform} (ne : p ≠ q) :
    ∀ name ∈ (ownEnv appLogs p).map EnvVar.name, name ∉ (ownEnv appLogs q).map EnvVar.name := by
  cases appLogs <;> cases p <;> cases q <;> first | exact absurd rfl ne | decide

theorem ownEnv_names_not_common (appLogs : Bool) (p : Platform) :
    ∀ name ∈ (ownEnv appLogs p).map EnvVar.name, name ∉ (commonEnv {} "" {}).map EnvVar.name := by
  cases appLogs <;> cases p <;> decide

theorem commonEnv_names_nodup (pod : PodIdentity) (connectionString : String) (cluster : ClusterIdentity) :
    ((commonEnv pod connectionString cluster).map EnvVar.name).Nodup := by
  rw [commonEnv_names]
  decide

theorem env_names_nodup {pod : PodIdentity} {platforms : List Platform} {appLogs : Bool} {connectionString : String}
    {cluster : ClusterIdentity} {made : List EnvVar} (nodup : platforms.Nodup)
    (run : env pod platforms appLogs connectionString cluster = .ok made) : (made.map EnvVar.name).Nodup := by
  obtain ⟨_, rfl⟩ := env_eq_ok run
  have own : (platforms.flatMap fun p => (ownEnv appLogs p).map EnvVar.name).Nodup := by
    refine List.nodup_flatMap.mpr ⟨fun p _ => ownEnv_names_nodup appLogs p, ?_⟩
    exact nodup.imp fun ne name inFirst inSecond => ownEnv_names_disjoint appLogs ne name inFirst inSecond
  rw [List.map_append, List.map_flatMap]
  refine List.nodup_append.mpr ⟨commonEnv_names_nodup pod connectionString cluster, own, ?_⟩
  rintro name isCommon other isOwn rfl
  obtain ⟨p, _, inOwn⟩ := List.mem_flatMap.mp isOwn
  exact ownEnv_names_not_common appLogs p name inOwn isCommon

/-- Whatever the platforms are, also repeated ones, they leave the variables alone that all have in common. -/
theorem common_alone {pod : PodIdentity} {platforms : List Platform} {appLogs : Bool} {connectionString : String}
    {cluster : ClusterIdentity} {made : List EnvVar}
    (run : env pod platforms appLogs connectionString cluster = .ok made) {var : EnvVar}
    (common : var ∈ commonEnv pod connectionString cluster) :
    var ∈ made ∧ ∀ other ∈ made, other.name = var.name → other = var := by
  obtain ⟨_, rfl⟩ := env_eq_ok run
  refine ⟨List.mem_append_left _ common, fun other member same => ?_⟩
  rcases List.mem_append.mp member with isCommon | isOwn
  · exact List.inj_on_of_nodup_map (commonEnv_names_nodup pod connectionString cluster) isCommon common same
  · obtain ⟨p, _, inOwn⟩ := List.mem_flatMap.mp isOwn
    have names : var.name ∈ (commonEnv {} "" {}).map EnvVar.name :=
      commonEnv_names pod connectionString cluster ▸ List.mem_map_of_mem common
    exact absurd (same ▸ names) (ownEnv_names_not_common appLogs p _ (List.mem_map_of_mem inOwn))

theorem reservedEnv_nodup : reservedEnv.Nodup := by decide

/-- Neither the marker nor a reserved name ends as the names of backups do, so no backup is ever taken for something
that an injection set. -/
theorem backupName_not_reserved (name : String) :
    Convention.backupName name ∉ Convention.marker :: reservedEnv := by
  have others : ∀ other ∈ Convention.marker :: reservedEnv, ¬ Convention.backupSuffix.toList <:+ other.toList := by
    decide
  exact fun member => others _ member ⟨name.toList, String.toList_append.symm⟩

/-- No reserved variable is the backup of another, nor is the marker. -/
theorem reservedEnv_primary : Injection.Env.Primary (Convention.marker :: reservedEnv) := by
  rintro _ reserved name _ rfl
  exact backupName_not_reserved name reserved

theorem marker_not_reserved : Convention.marker ∉ reservedEnv := by decide

/-- The names that a reversal knows are those that the catalog gives for all platforms. -/
theorem envNames_supported : envNames Platform.supported = .ok reservedEnv := rfl

/-- What is made for some platforms is known to a reversal, whatever the settings were. It looks for the names of what is
made for every platform with no settings at all. -/
structure Known (platforms : List Platform) (made byDefault : Except Error (List String)) (reserved : List String) :
    Prop where
  looked_for : byDefault = .ok reserved
  /-- An agent for each platform is all that it takes. -/
  made_iff : (∃ names, made = .ok names) ↔ ∀ p ∈ platforms, p ∈ Platform.supported
  subset : ∀ names, made = .ok names → names ⊆ reserved

theorem known_of_eq {purpose : Purpose} {platforms : List Platform} {made byDefault : Except Error (List String)}
    {names reserved : List String} (looked_for : byDefault = .ok reserved)
    (eq : made = ifSupported purpose platforms names)
    (subset : (∀ p ∈ platforms, p ∈ Platform.supported) → names ⊆ reserved) :
    Known platforms made byDefault reserved where
  looked_for := looked_for
  made_iff := by
    simp only [eq, ifSupported_eq_ok_iff]
    exact ⟨fun ⟨_, supported, _⟩ => supported, fun supported => ⟨names, supported, rfl⟩⟩
  subset := by
    rintro _ run
    obtain ⟨supported, rfl⟩ := ifSupported_eq_ok_iff.mp (eq.symm.trans run)
    exact subset supported

theorem ifSupported_supported {α : Type} (purpose : Purpose) (result : α) :
    ifSupported purpose Platform.supported result = .ok result :=
  ifSupported_eq_ok_iff.mpr ⟨fun _ member => member, rfl⟩

/-- Whatever the settings, nothing is made under a name that a reversal does not look for, be it a variable, an init
container, a volume or a mount; and no variable that it looks for is there twice, is the marker, or has the name of a
backup. Nothing is assumed of the platforms: they may repeat, and one without an agent makes nothing. -/
theorem names_known (platforms : List Platform) (pod : PodIdentity) (appLogs : Bool) (connectionString : String)
    (cluster : ClusterIdentity) (path : Option String) :
    Known platforms ((env pod platforms appLogs connectionString cluster).map (List.map EnvVar.name))
      (envNames Platform.supported) reservedEnv ∧
    Known platforms ((initContainers platforms path).map (List.map InitContainer.name))
      ((initContainers Platform.supported none).map (List.map InitContainer.name)) reservedInitContainers ∧
    Known platforms ((volumes platforms).map (List.map Volume.name))
      ((volumes Platform.supported).map (List.map Volume.name)) reservedVolumes ∧
    Known platforms ((mounts platforms).map (List.map Mount.name))
      ((mounts Platform.supported).map (List.map Mount.name)) reservedVolumes ∧
    reservedEnv.Nodup ∧ (∀ name, Convention.backupName name ∉ Convention.marker :: reservedEnv) ∧
    Convention.marker ∉ reservedEnv := by
  refine ⟨?_, ?_, ?_, ?_, reservedEnv_nodup, backupName_not_reserved, marker_not_reserved⟩
  · refine known_of_eq envNames_supported (by rw [env_eq, map_ifSupported]) fun supported => ?_
    have made : env pod platforms appLogs connectionString cluster = .ok _ :=
      (env_eq ..).trans (ifSupported_eq_ok_iff.mpr ⟨supported, rfl⟩)
    intro name member
    obtain ⟨var, inMade, rfl⟩ := List.mem_map.mp member
    exact env_names_reserved made var inMade
  · refine known_of_eq ?_ (initContainers_named platforms path) fun _ _ => mem_agentNames_supported
    exact (initContainers_named ..).trans (ifSupported_supported _ _)
  · refine known_of_eq ?_ (volumes_named platforms) fun _ =>
      List.Subset.trans (withShared_subset _ _) (volumeNames_subset platforms)
    exact (volumes_named _).trans (ifSupported_supported _ _)
  · refine known_of_eq ?_ (mounts_named platforms) fun _ =>
      List.Subset.trans (withShared_subset _ _) (volumeNames_subset platforms)
    exact (mounts_named _).trans (ifSupported_supported _ _)

end Fragment

namespace Injection

theorem named_toJson (var : EnvVar) : named var.name var.toJson = true := by
  obtain ⟨name, source⟩ := var
  cases source <;> simp [EnvVar.toJson, named, entryName?, Json.get?, Keyed.get?, Json.str?]

section Made

variable {resource : Instrumentation} {pod : PodIdentity} {platforms : List Platform} {cluster : ClusterIdentity}
  {load : Load}

/-- The init containers are made first, so it is they that a platform without an agent stops. -/
theorem Load.make_of_unsupported (unsupported : .openTelemetry ∈ platforms) :
    Load.make resource pod platforms cluster =
      .error (.unsupportedPlatform .initContainers "OpenTelemetry") := by
  rw [Load.make, Fragment.initContainers_eq, Fragment.ifSupported, if_pos unsupported]
  rfl

theorem Load.exists_make (supported : .openTelemetry ∉ platforms) :
    ∃ load, Load.make resource pod platforms cluster = .ok load := by
  simp only [Load.make, Fragment.initContainers_eq, Fragment.volumes_eq, Fragment.mounts_eq, Fragment.env_eq,
    Fragment.ifSupported, if_neg supported]
  exact ⟨_, rfl⟩

/-- The parts of a load that could be made, each for its platforms. What they are is the matter of the catalog; the
state only records what was asked for. -/
theorem Load.make_eq_ok (made : Load.make resource pod platforms cluster = .ok load) :
    ∃ initContainers volumes mounts,
      Fragment.initContainers platforms resource.imageRepositoryPath = .ok initContainers ∧
      Fragment.volumes platforms = .ok volumes ∧ Fragment.mounts platforms = .ok mounts ∧
      Fragment.env pod platforms resource.appLogsEnabled resource.connectionString cluster = .ok load.env ∧
      load.initContainers = initContainers.map InitContainer.toJson ∧
      load.volumes = volumes.map Volume.toJson ∧ load.mounts = mounts.map Mount.toJson ∧
      load.state = { resourceName := resource.name, resourceVersion := resource.resourceVersion, platforms } ∧
      load.logsExcluded = resource.containerLogsDisabled := by
  have supported : .openTelemetry ∉ platforms := fun unsupported => by
    rw [Load.make_of_unsupported unsupported] at made
    cases made
  simp only [Load.make, Fragment.initContainers_eq, Fragment.volumes_eq, Fragment.mounts_eq, Fragment.env_eq,
    Fragment.ifSupported, if_neg supported] at made ⊢
  cases made
  exact ⟨_, _, _, rfl, rfl, rfl, rfl, rfl, rfl, rfl, rfl, rfl⟩

theorem Load.supported (made : Load.make resource pod platforms cluster = .ok load) :
    ∀ p ∈ platforms, p ∈ Platform.supported := by
  obtain ⟨_, _, _, _, _, _, env, _⟩ := Load.make_eq_ok made
  exact (Fragment.env_eq_ok env).1

theorem map_toJson_names {α : Type} {toJson : α → Json} {name : α → String}
    (named : ∀ value, entryName? (toJson value) = some (name value)) (values : List α) :
    (values.map toJson).map entryName? = (values.map name).map some := by
  simp [Function.comp_def, named]

theorem Load.initContainers_names (made : Load.make resource pod platforms cluster = .ok load) :
    load.initContainers.map entryName? = (Fragment.agentNames Agent.initContainer platforms).map some := by
  obtain ⟨initContainers, _, _, run, _, _, _, same, _, _⟩ := Load.make_eq_ok made
  rw [same, ← Fragment.initContainers_names run]
  exact map_toJson_names (fun _ => rfl) initContainers

theorem Load.volumes_names (some : platforms ≠ [])
    (made : Load.make resource pod platforms cluster = .ok load) :
    load.volumes.map entryName? = (Fragment.volumeNames platforms).map Option.some := by
  obtain ⟨_, volumes, _, _, run, _, _, _, same, _⟩ := Load.make_eq_ok made
  rw [same, ← Fragment.volumes_names some run]
  exact map_toJson_names (fun _ => rfl) volumes

theorem Load.mounts_names (some : platforms ≠ [])
    (made : Load.make resource pod platforms cluster = .ok load) :
    load.mounts.map entryName? = (Fragment.volumeNames platforms).map Option.some := by
  obtain ⟨_, _, mounts, _, _, run, _, _, _, same, _⟩ := Load.make_eq_ok made
  rw [same, ← Fragment.mounts_names some run]
  exact map_toJson_names (fun _ => rfl) mounts

/-- Entries that a reversal takes out again, at least one. -/
structure Owned (names : List String) (added : List Json) : Prop where
  ne_nil : added ≠ []
  named : ∀ entry ∈ added, (names.any fun name => Injection.named name entry) = true

theorem owned_of_names {names ours : List String} {added : List Json} (same : added.map entryName? = ours.map some)
    (some : ours ≠ []) (reserved : ∀ name ∈ ours, name ∈ names) : Owned names added where
  ne_nil none := some (by simpa [none] using same.symm)
  named entry member := by
    have here : entryName? entry ∈ ours.map Option.some := same ▸ List.mem_map_of_mem member
    obtain ⟨name, isOurs, is⟩ := List.mem_map.mp here
    exact List.any_eq_true.mpr ⟨name, reserved name isOurs, by simp [Injection.named, is]⟩

/-- Names of variables that only an injection makes: the marker, and the backups of what it may set. -/
def traces : List String := Convention.marker :: Fragment.reservedEnv.map Convention.backupName

/-- What a load relies on for its reversal: nothing but reserved names, and each reserved variable once. A platform that
is repeated breaks the second. -/
structure Load.Reversible (load : Load) : Prop where
  initContainers : Owned Fragment.reservedInitContainers load.initContainers
  volumes : Owned Fragment.reservedVolumes load.volumes
  mounts : Owned Fragment.reservedVolumes load.mounts
  env : (load.env.map EnvVar.name).Nodup
  reserved : ∀ var ∈ load.env, var.name ∈ Fragment.reservedEnv

theorem Load.owned (some : platforms ≠ [])
    (made : Load.make resource pod platforms cluster = .ok load) :
    Owned Fragment.reservedInitContainers load.initContainers ∧ Owned Fragment.reservedVolumes load.volumes ∧
      Owned Fragment.reservedVolumes load.mounts := by
  have supported := Load.supported made
  have volumeNames : ∀ name ∈ Fragment.volumeNames platforms, name ∈ Fragment.reservedVolumes :=
    fun _ member => Fragment.volumeNames_subset platforms member
  refine ⟨owned_of_names (Load.initContainers_names made) (Fragment.agentNames_ne_nil supported some)
      fun name member => Fragment.mem_agentNames_supported member,
    owned_of_names (Load.volumes_names some made) (by simp [Fragment.volumeNames]) volumeNames,
    owned_of_names (Load.mounts_names some made) (by simp [Fragment.volumeNames]) volumeNames⟩

/-- A load for distinct platforms, of which there is at least one, can be reversed. -/
theorem Load.reversible (some : platforms ≠ []) (nodup : platforms.Nodup)
    (made : Load.make resource pod platforms cluster = .ok load) : load.Reversible := by
  obtain ⟨initContainers, volumes, mounts⟩ := Load.owned some made
  obtain ⟨_, _, _, _, _, _, env, _, _, _⟩ := Load.make_eq_ok made
  exact ⟨initContainers, volumes, mounts, Fragment.env_names_nodup nodup env, Fragment.env_names_reserved env⟩

end Made

end Injection

end Graft
