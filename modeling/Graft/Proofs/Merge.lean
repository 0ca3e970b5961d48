import Graft.Proofs.Mutation

namespace Graft

namespace Injection

open Json

/-- Puts other entries in the place of the first one of each name. -/
def expandFirsts (f : String → Json → List Json) : List String → List Json → List Json
  | _, [] => []
  | names, entry :: rest =>
    match names.find? (named · entry) with
    | some name => f name entry ++ expandFirsts f (names.erase name) rest
    | none => entry :: expandFirsts f names rest

/-- An entry as a backup, and behind it the value that is set, or the entry itself if none is. -/
def backedUp (value : String → Option Json) (name : String) (entry : Json) : List Json :=
  [rename (Convention.backupName name) entry, (value name).getD entry]

/-- What some variables set a name to. -/
def valueOf (vars : List EnvVar) (name : String) : Option Json :=
  (vars.find? fun var => var.name == name).map EnvVar.toJson

/-- A customer's variables merged with those of an injection. `names` are all that an injection may set: the first entry
of each becomes a backup with what is set, or the entry itself, right behind it; what the customer does not have follows
at the end, and then the marker. -/
def merged (vars : List EnvVar) (names : List String) (own : List Json) : List Json :=
  expandFirsts (backedUp (valueOf vars)) names own ++
    (vars.filter fun var => !own.any (named var.name)).map EnvVar.toJson ++ [markerEntry]

section

variable {f : String → Json → List Json} {names : List String} {name : String}

theorem find?_named_eq_some_iff {entry : Json} :
    names.find? (named · entry) = some name ↔ name ∈ names ∧ named name entry = true := by
  constructor
  · exact fun found => ⟨List.mem_of_find?_eq_some found, List.find?_some (p := (named · entry)) found⟩
  · rintro ⟨member, is⟩
    cases found : names.find? (named · entry) with
    | none => exact absurd is (List.find?_eq_none.mp found name member)
    | some other => rw [named_unique (List.find?_some (p := (named · entry)) found) is]

theorem expandFirsts_nil (entries : List Json) : expandFirsts f [] entries = entries := by
  induction entries with
  | nil => rfl
  | cons entry rest ih => rw [expandFirsts, List.find?_nil, ih]

/-- Entries that have none of the names stay in front, and the names are looked for behind them. -/
theorem expandFirsts_append {front : List Json} (free : Free names front) (rest : List Json) :
    expandFirsts f names (front ++ rest) = front ++ expandFirsts f names rest := by
  induction front with
  | nil => rfl
  | cons entry front ih =>
    have none : names.find? (named · entry) = none :=
      List.find?_eq_none.mpr fun other member => by simp [free entry List.mem_cons_self other member]
    rw [List.cons_append, expandFirsts, none, ih fun other member => free other (List.mem_cons_of_mem _ member)]
    rfl

theorem expandFirsts_concat {last : Json} (free : Free names [last]) (entries : List Json) :
    expandFirsts f names (entries ++ [last]) = expandFirsts f names entries ++ [last] := by
  induction entries generalizing names with
  | nil => exact (expandFirsts_append free []).trans rfl
  | cons entry rest ih =>
    rw [List.cons_append, expandFirsts, expandFirsts]
    split
    · rename_i name _
      have fewer : Free (names.erase name) [last] := fun other member kept inside =>
        free other member kept (List.mem_of_mem_erase inside)
      rw [ih fewer, List.append_assoc]
    · rw [ih free, List.cons_append]

/-- One name after another is all names in one pass, if what is put for the one has none of the others. The names must
not repeat. -/
theorem expandFirsts_expandFirst (fresh : name ∉ names)
    (apart : ∀ entry, named name entry = true → Free names (f name entry)) (entries : List Json) :
    expandFirsts f names (expandFirst name (f name) entries) = expandFirsts f (name :: names) entries := by
  induction entries generalizing names with
  | nil => rfl
  | cons entry rest ih =>
    by_cases is : named name entry = true
    · rw [expandFirst, if_pos is, expandFirsts_append (apart entry is), expandFirsts,
        find?_named_eq_some_iff.mpr ⟨List.mem_cons_self, is⟩]
      simp
    · rw [expandFirst, if_neg is, expandFirsts, expandFirsts, List.find?_cons, Bool.eq_false_iff.mpr is]
      cases found : names.find? (named · entry) with
      | none => exact congrArg (entry :: ·) (ih fresh apart)
      | some other =>
        have ne : name ≠ other := fun same => fresh (same ▸ List.mem_of_find?_eq_some found)
        have erased : (name :: names).erase other = name :: names.erase other := by
          simp [ne]
        simp only [erased]
        refine congrArg (f other entry ++ ·) (ih (fun inside => fresh (List.mem_of_mem_erase inside)) ?_)
        exact fun entry is one member kept inside => apart entry is one member kept (List.mem_of_mem_erase inside)

/-- The order of the names does not matter, since an entry has one name. -/
theorem expandFirsts_perm {others : List String} (perm : names.Perm others) (entries : List Json) :
    expandFirsts f names entries = expandFirsts f others entries := by
  induction entries generalizing names others with
  | nil => rfl
  | cons entry rest ih =>
    rw [expandFirsts, expandFirsts]
    cases found : names.find? (named · entry) with
    | none =>
      have none : others.find? (named · entry) = none :=
        List.find?_eq_none.mpr fun other member => List.find?_eq_none.mp found other (perm.mem_iff.mpr member)
      rw [none]
      exact congrArg (entry :: ·) (ih perm)
    | some name =>
      obtain ⟨member, is⟩ := find?_named_eq_some_iff.mp found
      rw [find?_named_eq_some_iff.mpr ⟨perm.mem_iff.mp member, is⟩]
      exact congrArg (f name entry ++ ·) (ih (perm.erase name))

end

namespace Env

variable {value : String → Option Json} {names : List String}

/-- A change expands the first entry of its name, or appends its value. A backup that is there already would be taken
out first, so there must be none. -/
theorem change_eq {env : List Json} {name : String} (noBackup : env.find? (named (Convention.backupName name)) = none) :
    change env (name, value name) = expandFirst name (backedUp value name) env ++
      if env.any (named name) then [] else (value name).toList := by
  have noneKept : env.any (named (Convention.backupName name)) = false := by
    rw [any_named_eq_isSome, noBackup, Option.isSome_none]
  by_cases present : env.any (named name) = true
  · cases set : value name with
    | none =>
      have same : backedUp value name = fun entry => [rename (Convention.backupName name) entry, entry] := by
        funext entry
        simp [backedUp, set]
      simp [change, preserve, noneKept, present, same]
    | some text =>
      have same : backedUp value name = fun entry => [rename (Convention.backupName name) entry, text] := by
        funext entry
        simp [backedUp, set]
      simp [change, Env.set, present, same, filter_named_eq_self noBackup]
  · have absent : env.find? (named name) = none := by
      rw [any_named_eq_isSome] at present
      exact Option.not_isSome_iff_eq_none.mp present
    rw [expandFirst_of_absent absent, if_neg present]
    cases set : value name with
    | none => simp [change, preserve, noneKept, expandFirst_of_absent absent]
    | some text => exact set_of_absent absent

/-- Changes of different names are one pass over the list, and what the list does not have follows in their order. None
of the names may have a backup in the list or be the backup of another. -/
theorem foldl_change_eq (nodup : names.Nodup) (primary : Primary names)
    (proper : ∀ name ∈ names, ∀ text, value name = some text → named name text = true) {env : List Json}
    (noBackup : ∀ name ∈ names, env.find? (named (Convention.backupName name)) = none) :
    names.foldl (fun env name => change env (name, value name)) env =
      expandFirsts (backedUp value) names env ++
        (names.filter fun name => !env.any (named name)).filterMap value := by
  induction names generalizing env with
  | nil => simp [expandFirsts_nil]
  | cons name rest ih =>
    obtain ⟨fresh, restNodup⟩ := List.nodup_cons.mp nodup
    have isProper : Proper (name, value name) := fun text set => proper name List.mem_cons_self text set
    have ne (other : String) (member : other ∈ rest) : other ≠ name := fun same => fresh (same ▸ member)
    -- The change of the first name leaves the others and their backups alone.
    have others (other : String) (member : other ∈ rest) :
        (change env (name, value name)).find? (named other) = env.find? (named other) :=
      (ignores_change isProper (ne other member)
        (primary _ (List.mem_cons_of_mem _ member) _ List.mem_cons_self)).find?_eq env
    have backups (other : String) (member : other ∈ rest) :
        (change env (name, value name)).find? (named (Convention.backupName other)) = none :=
      ((ignores_change isProper (primary _ List.mem_cons_self _ (List.mem_cons_of_mem _ member)).symm
        fun same => ne other member (backupName_injective same)).find?_eq env).trans
        (noBackup other (List.mem_cons_of_mem _ member))
    have later := ih restNodup (fun a ha b hb => primary a (List.mem_cons_of_mem _ ha) b (List.mem_cons_of_mem _ hb))
      (fun other member => proper other (List.mem_cons_of_mem _ member)) backups
    have absent : rest.filter (fun other => !(change env (name, value name)).any (named other)) =
        rest.filter fun other => !env.any (named other) := by
      refine List.filter_congr fun other member => ?_
      rw [any_named_eq_isSome, any_named_eq_isSome, others other member]
    have valueFree (text : Json) (set : value name = some text) : Free rest [text] := by
      intro entry inside other member
      cases List.mem_singleton.mp inside
      exact named_of_ne (isProper text set) (ne other member).symm
    have apart (entry : Json) (is : named name entry = true) : Free rest (backedUp value name entry) := by
      intro one inside other member
      rcases List.mem_pair.mp inside with rfl | rfl
      · exact named_of_ne (named_rename is)
          (primary _ (List.mem_cons_of_mem _ member) _ List.mem_cons_self).symm
      · cases set : value name with
        | none => exact named_of_ne is (ne other member).symm
        | some text => exact valueFree text set _ List.mem_cons_self other member
    rw [List.foldl_cons, later, absent, change_eq (noBackup name List.mem_cons_self)]
    by_cases present : env.any (named name) = true
    · simp [present, expandFirsts_expandFirst fresh apart]
    · cases set : value name with
      | none => simp [present, set, expandFirsts_expandFirst fresh apart]
      | some text =>
        simp [present, set, expandFirsts_concat (valueFree text set), expandFirsts_expandFirst fresh apart]

end Env

theorem valueOf_eq_some {vars : List EnvVar} (nodup : (vars.map EnvVar.name).Nodup) {var : EnvVar}
    (member : var ∈ vars) : valueOf vars var.name = some var.toJson := by
  cases found : vars.find? fun other => other.name == var.name with
  | none => exact absurd (beq_self_eq_true var.name) (List.find?_eq_none.mp found var member)
  | some other =>
    have same : other.name = var.name := by simpa using List.find?_some found
    rw [valueOf, found, List.inj_on_of_nodup_map nodup (List.mem_of_find?_eq_some found) member same]
    rfl

theorem valueOf_eq_none {vars : List EnvVar} {name : String} (absent : name ∉ vars.map EnvVar.name) :
    valueOf vars name = none := by
  rw [valueOf, Option.map_eq_none_iff, List.find?_eq_none]
  rintro var member same
  exact absent (beq_iff_eq.mp same ▸ List.mem_map_of_mem member)

namespace Load.Reversible

variable {load : Load}

/-- The steps of a load are the changes of its names, each with the value that the load has for it. -/
theorem steps_eq (h : load.Reversible) : load.steps =
    (load.env.map EnvVar.name ++ load.untouched).map fun name => (name, valueOf load.env name) := by
  have isSet : load.env.map (fun var => (var.name, some var.toJson)) =
      load.env.map fun var => (var.name, valueOf load.env var.name) :=
    List.map_congr_left fun var member => by rw [valueOf_eq_some h.env member]
  have isKept : load.untouched.map (fun name => (name, (none : Option Json))) =
      load.untouched.map fun name => (name, valueOf load.env name) :=
    List.map_congr_left fun name member => by rw [valueOf_eq_none (Load.mem_untouched_iff.mp member).2]
  rw [Load.steps, isSet, isKept, List.map_append, List.map_map]
  rfl

/-- What follows the customer's variables: those that are set and not there, in the order of the load. -/
theorem filterMap_valueOf (h : load.Reversible) (absent : String → Bool) :
    ((load.env.map EnvVar.name ++ load.untouched).filter absent).filterMap (valueOf load.env) =
      (load.env.filter fun var => absent var.name).map EnvVar.toJson := by
  have isKept : (load.untouched.filter absent).filterMap (valueOf load.env) = [] :=
    List.filterMap_eq_nil_iff.mpr fun name member =>
      valueOf_eq_none (Load.mem_untouched_iff.mp (List.mem_filter.mp member).1).2
  have isSet : (load.env.filter fun var => absent var.name).filterMap (fun var => valueOf load.env var.name) =
      (load.env.filter fun var => absent var.name).map EnvVar.toJson := by
    rw [← List.filterMap_eq_map]
    exact List.filterMap_congr fun var member => valueOf_eq_some h.env (List.mem_filter.mp member).1
  rw [List.filter_append, List.filterMap_append, isKept, List.append_nil, List.filter_map, List.filterMap_map]
  exact isSet

/-- In a list without a marker and without backups, an injection is one pass over the variables. -/
theorem injectEnv_eq_merged (h : load.Reversible) {env : List Json} (free : Free traces env) :
    injectEnv load env = merged load.env Fragment.reservedEnv env := by
  have perm : (load.env.map EnvVar.name ++ load.untouched).Perm Fragment.reservedEnv := by
    rw [← Load.steps_names]
    exact h.steps_perm
  have noBackup : ∀ name ∈ load.env.map EnvVar.name ++ load.untouched,
      env.find? (named (Convention.backupName name)) = none := fun name member =>
    free.find?_eq_none (List.mem_cons_of_mem _ (List.mem_map_of_mem (perm.mem_iff.mp member)))
  have primary : Env.Primary (load.env.map EnvVar.name ++ load.untouched) := fun a ha b hb =>
    primary_reserved a (perm.mem_iff.mp ha) b (perm.mem_iff.mp hb)
  have proper : ∀ name ∈ load.env.map EnvVar.name ++ load.untouched, ∀ text,
      valueOf load.env name = some text → named name text = true := by
    intro name _ text set
    obtain ⟨var, found, rfl⟩ := Option.map_eq_some_iff.mp set
    have same : var.name = name := by simpa using List.find?_some found
    exact same ▸ named_toJson var
  have pass := Env.foldl_change_eq (perm.nodup_iff.mpr Fragment.reservedEnv_nodup) primary proper noBackup
  rw [injectEnv_eq h.reserved (free.find?_eq_none List.mem_cons_self), h.steps_eq, List.foldl_map, pass,
    expandFirsts_perm perm, h.filterMap_valueOf]
  rfl

end Load.Reversible

/-- An injection merges a customer's variables with the injected ones, in each container, if no earlier injection has
left its marker or its backups there. Every entry stays, as a whole and in its place; a first entry of a reserved name
only changes its own name. Entries may repeat a name, and may have none. -/
theorem variables_merged {object : Json} {g : Governing} {state : InjectionState}
    (free : ∀ container ∈ PodIdentity.containers object, Free traces (listed (container.get? "env")))
    (nodup : g.platforms.Nodup) (run : (mutate object g).outcome = .ok (some state)) :
    ∃ resource vars names, g.resource = some resource ∧
      Fragment.env g.pod g.platforms resource.appLogsEnabled resource.connectionString g.cluster = .ok vars ∧
      Fragment.envNames Platform.supported = .ok names ∧
      List.Forall₂ (fun before after =>
          after.get? "env" = some (.arr (merged vars names (listed (before.get? "env")))))
        (PodIdentity.containers object) (PodIdentity.containers (mutate object g).object) := by
  obtain ⟨resource, load, has, platforms, made, each⟩ := containers_mutate_injected run
  obtain ⟨_, _, _, _, _, _, envMade, _⟩ := Load.make_eq_ok made
  have h := Load.reversible platforms nodup made
  have untouched : isInjected object = false := isInjected_eq_false_iff.mpr fun container member =>
    (free container member).find?_eq_none List.mem_cons_self
  rw [untouched, injectContainers_eq_ok_iff, List.forall₂_map_left_iff] at each
  refine ⟨resource, load.env, _, has, envMade, Fragment.envNames_supported, ?_⟩
  refine ((List.forall₂_and_left _ _).mpr ⟨free, each⟩).imp fun before after ⟨free, one⟩ => ?_
  have kept : revertEnv false (listed (before.get? "env")) = listed (before.get? "env") :=
    revertEnv_eq_self_iff.mpr ⟨free.unpaired, free.find?_eq_none List.mem_cons_self⟩
  rw [get?_env_injectContainer one, get?_env_revertContainer, shrink_eq_self kept, grow, h.injectEnv_eq_merged free]

/-- Options for the Java agent from a secret. -/
def secretOptions : Json := .obj [("name", .str "JAVA_TOOL_OPTIONS"), ("valueFrom", .obj [
  ("secretKeyRef", .obj [("key", .str "java"), ("name", .str "options")])])]

def nodeOptions : Json := .obj [("name", .str "NODE_OPTIONS"), ("value", .str "--inspect")]

def laterOptions : Json := .obj [("name", .str "JAVA_TOOL_OPTIONS"), ("value", .str "-Xmx1g")]

/-- A workload that sets variables of two agents itself, one of them twice. -/
def mixedWorkload : Json := .obj [("spec", .obj [("template", .obj [("spec", .obj [("containers", .arr [.obj [
  ("env", .arr [secretOptions, .obj [("value", .str "1")], nodeOptions, laterOptions]),
  ("name", .str "main")]])])])])]

theorem mixed_variables_merged :
    Clean mixedWorkload ∧
    (mutate mixedWorkload (governing [.java])).outcome = .ok (some ⟨"default", "", [.java]⟩) ∧
    ∃ after, PodIdentity.containers (mutate mixedWorkload (governing [.java])).object = [after] ∧
      after.get? "env" = some (.arr ([
        rename (Convention.backupName "JAVA_TOOL_OPTIONS") secretOptions,
        .obj [("name", .str "JAVA_TOOL_OPTIONS"), ("value", .str
          "-javaagent:/azure-monitor-auto-instrumentation-java/applicationinsights-agent-codeless.jar")],
        .obj [("value", .str "1")],
        rename (Convention.backupName "NODE_OPTIONS") nodeOptions,
        nodeOptions,
        laterOptions] ++ (Fragment.commonEnv {} "key" {}).map EnvVar.toJson ++ [markerEntry])) := by
  have clean : Clean mixedWorkload := by decide
  refine ⟨clean, rfl, ?_⟩
  obtain ⟨resource, vars, names, has, made, known, each⟩ := @variables_merged mixedWorkload (governing [.java])
    ⟨"default", "", [.java]⟩ (fun container member => (clean.untouched container member).env) (by decide) rfl
  cases has
  cases made
  cases known
  obtain ⟨after, others, is, none, afters⟩ := List.forall₂_cons_left_iff.mp each
  cases List.forall₂_nil_left_iff.mp none
  exact ⟨after, afters, is⟩

end Injection

end Graft
