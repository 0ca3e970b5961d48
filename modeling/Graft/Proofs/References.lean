import Graft.Proofs.Bookkeeping
import Graft.Proofs.Lookup
import Mathlib.Data.List.TakeWhile

namespace Graft

namespace EnvVar

/-- The variable is set to a field of the pod. -/
def IsField (var : EnvVar) : Prop := ∃ path, var.source = .field path

/-- What a value has in the place of another variable's. -/
def reference (name : String) : String := "$(" ++ name ++ ")"

def RefersTo (var : EnvVar) (name : String) : Prop :=
  ∃ text, var.source = .value text ∧ (reference name).toList <:+: text.toList

end EnvVar

namespace Fragment

variable {pod : PodIdentity} {platforms : List Platform} {appLogs : Bool} {connectionString : String}
  {cluster : ClusterIdentity} {made : List EnvVar}

/-- The fields of the pod come first among the variables of an injection, and nothing behind them is one. -/
theorem exists_fields (run : env pod platforms appLogs connectionString cluster = .ok made) :
    ∃ fields values, made = fields ++ values ∧ (∀ var ∈ fields, var.IsField) ∧ ∀ var ∈ values, ¬ var.IsField := by
  obtain ⟨_, eq⟩ := env_eq_ok run
  have common := List.take_append_drop 4 (commonEnv pod connectionString cluster)
  refine ⟨_, (commonEnv pod connectionString cluster).drop 4 ++ platforms.flatMap (ownEnv appLogs),
    by rw [eq, ← List.append_assoc, common], ?_, ?_⟩
  · simp [commonEnv, EnvVar.IsField]
  · intro var member
    rcases List.mem_append.mp member with isCommon | isOwn
    · have values : ∀ var ∈ (commonEnv pod connectionString cluster).drop 4, ¬ var.IsField := by
        simp [commonEnv, EnvVar.IsField]
      exact values var isCommon
    · obtain ⟨p, _, inOwn⟩ := List.mem_flatMap.mp isOwn
      have values : ∀ var ∈ ownEnv appLogs p, ¬ var.IsField := by
        cases appLogs <;> cases p <;> simp [ownEnv, loaderEnv, logsOffEnv, EnvVar.IsField]
      exact values var inOwn

theorem field_before (nodup : platforms.Nodup)
    (run : env pod platforms appLogs connectionString cluster = .ok made) {field var : EnvVar} (fieldMember : field ∈ made)
    (isField : field.IsField) (varMember : var ∈ made) (isValue : ¬ var.IsField) :
    field.name ∈ (made.map EnvVar.name).takeWhile (· ≠ var.name) := by
  have names := env_names_nodup nodup run
  obtain ⟨fields, values, rfl, areFields, areValues⟩ := exists_fields run
  have inFields := (List.mem_append.mp fieldMember).resolve_right fun there => areValues field there isField
  have inValues := (List.mem_append.mp varMember).resolve_left fun there => isValue (areFields var there)
  rw [List.map_append] at names ⊢
  have apart : ∀ name ∈ fields.map EnvVar.name, decide (name ≠ var.name) = true := by
    intro name member
    have ne := (List.nodup_append.mp names).2.2 name member var.name (List.mem_map_of_mem inValues)
    exact decide_eq_true ne
  rw [List.takeWhile_append_of_pos apart]
  exact List.mem_append_left _ (List.mem_map_of_mem inFields)

theorem infix_intercalate {separator : String} {part : List Char} {first : String} {rest : List String}
    (within : ∃ text ∈ first :: rest, part <:+: text.toList) :
    part <:+: (String.intercalate separator (first :: rest)).toList := by
  induction rest generalizing first with
  | nil =>
    obtain ⟨text, member, inText⟩ := within
    exact List.mem_singleton.mp member ▸ inText
  | cons second rest ih =>
    -- The texts are put together from the front.
    refine @ih (first ++ separator ++ second) ?_
    obtain ⟨text, member, inText⟩ := within
    simp only [List.mem_cons] at member
    rcases member with rfl | rfl | later
    · refine ⟨_, List.mem_cons_self, inText.trans ?_⟩
      simp only [String.toList_append, List.append_assoc]
      exact (List.prefix_append _ _).isInfix
    · refine ⟨_, List.mem_cons_self, inText.trans ?_⟩
      rw [String.toList_append]
      exact (List.suffix_append _ _).isInfix
    · exact ⟨text, List.mem_cons_of_mem _ later, inText⟩

/-- The attributes refer to every field of the pod, whatever is known of the pod. -/
theorem resourceAttributes_refer (pod : PodIdentity) (cluster : ClusterIdentity) :
    ∀ name ∈ ["NODE_NAME", "POD_NAMESPACE", "POD_NAME", "POD_UID"],
      EnvVar.RefersTo ⟨resourceAttributesName, .value (resourceAttributes pod cluster)⟩ name := by
  have within (known : List (Option String)) (key name : String)
      (member : some (key ++ EnvVar.reference name) ∈ known) :
      (EnvVar.reference name).toList <:+: (String.intercalate "," (known.filterMap id)).toList := by
    have there : key ++ EnvVar.reference name ∈ known.filterMap id := List.mem_filterMap.mpr ⟨_, member, rfl⟩
    have inside : (EnvVar.reference name).toList <:+: (key ++ EnvVar.reference name).toList := by
      rw [String.toList_append]
      exact (List.suffix_append _ _).isInfix
    obtain ⟨first, rest, split⟩ := List.exists_cons_of_ne_nil (List.ne_nil_of_mem there)
    rw [split] at there ⊢
    exact infix_intercalate ⟨_, there, inside⟩
  intro name member
  refine ⟨_, rfl, ?_⟩
  simp only [List.mem_cons, List.not_mem_nil, or_false] at member
  rcases member with rfl | rfl | rfl | rfl
  · exact within _ "k8s.node.name=" _ (by simp [EnvVar.reference])
  · exact within _ "k8s.namespace.name=" _ (by simp [EnvVar.reference])
  · exact within _ "k8s.pod.name=" _ (by simp [EnvVar.reference])
  · exact within _ "k8s.pod.uid=" _ (by simp [EnvVar.reference])

end Fragment

namespace Injection

open Json

/-- An entry of a name stands before all entries of another. Where the other has none, one of the first is enough. -/
def StandsBefore (name other : String) (entries : List Json) : Prop :=
  ∃ entry ∈ entries.takeWhile fun entry => !named other entry, named name entry = true

/-- Those of some names that the entries of a list have, in the order of the entries. -/
def roster (names : List String) (entries : List Json) : List String :=
  (entries.filterMap entryName?).filter (· ∈ names)

variable {names : List String} {name : String}

theorem roster_append (names : List String) (front back : List Json) :
    roster names (front ++ back) = roster names front ++ roster names back := by
  rw [roster, List.filterMap_append, List.filter_append]
  rfl

theorem roster_cons (names : List String) (entry : Json) (rest : List Json) :
    roster names (entry :: rest) = roster names [entry] ++ roster names rest :=
  roster_append names [entry] rest

theorem roster_of_named {entry : Json} (is : named name entry = true) :
    roster names [entry] = if name ∈ names then [name] else [] := by
  have own : entryName? entry = some name := by simpa [named] using is
  by_cases member : name ∈ names <;> simp [roster, own, member]

theorem mem_roster_iff (member : name ∈ names) (entries : List Json) :
    name ∈ roster names entries ↔ entries.any (named name) = true := by
  simp [roster, member, List.any_eq_true, named, List.mem_filterMap]

/-- The order is known from the roster alone, as long as both names are on it. -/
theorem standsBefore_iff {other : String} (member : name ∈ names) (otherMember : other ∈ names)
    (entries : List Json) :
    StandsBefore name other entries ↔ name ∈ (roster names entries).takeWhile (· ≠ other) := by
  induction entries with
  | nil => simp [StandsBefore, roster]
  | cons entry rest ih =>
    have own (ne : named other entry = false) : StandsBefore name other (entry :: rest) ↔
        named name entry = true ∨ StandsBefore name other rest := by
      simp [StandsBefore, ne]
    cases has : entryName? entry with
    | none =>
      have not (any : String) : named any entry = false := by simp [named, has]
      have nothing : roster names [entry] = [] := by simp [roster, has]
      rw [own (not other), not name, roster_cons, nothing, List.nil_append, ← ih]
      simp
    | some found =>
      have is : named found entry = true := by simp [named, has]
      rw [roster_cons, roster_of_named is]
      by_cases isOther : found = other
      · subst isOther
        simp [StandsBefore, is, otherMember]
      · rw [own (named_of_ne is isOther), ih]
        by_cases known : found ∈ names
        · by_cases same : found = name
          · subst same
            simp [known, isOther, is]
          · simp [known, isOther, named_of_ne is same, Ne.symm same]
        · have ne : found ≠ name := fun same => known (same ▸ member)
          simp [known, named_of_ne is ne]

theorem roster_expandFirst {f : Json → List Json}
    (same : ∀ entry, named name entry = true → roster names (f entry) = roster names [entry]) (entries : List Json) :
    roster names (expandFirst name f entries) = roster names entries := by
  induction entries with
  | nil => rfl
  | cons entry rest ih =>
    by_cases is : named name entry = true
    · rw [expandFirst, if_pos is, roster_append, same entry is, ← roster_cons]
    · rw [expandFirst, if_neg is, roster_cons, ih, ← roster_cons]

theorem roster_filter (apart : name ∉ names) (entries : List Json) :
    roster names (entries.filter fun entry => !named name entry) = roster names entries := by
  induction entries with
  | nil => rfl
  | cons entry rest ih =>
    by_cases is : named name entry = true
    · rw [roster_cons, roster_of_named is, if_neg apart, List.nil_append, ← ih]
      simp [is]
    · rw [roster_cons, ← ih, ← roster_cons]
      simp [is]

/-- A variable that is set keeps its place, or gets the last one. The backup that it may get is not on the roster. -/
theorem roster_set (member : name ∈ names) (apart : Convention.backupName name ∉ names) {value : Json}
    (is : named name value = true) (env : List Json) : roster names (Env.set env name value) =
      if name ∈ roster names env then roster names env else roster names env ++ [name] := by
  have valueRoster : roster names [value] = [name] := (roster_of_named is).trans (if_pos member)
  unfold Env.set
  by_cases present : env.any (named name) = true
  · have replaced : ∀ entry, named name entry = true →
        roster names [rename (Convention.backupName name) entry, value] = roster names [entry] := by
      intro entry isOwn
      rw [roster_cons, roster_of_named (named_rename isOwn), if_neg apart, List.nil_append, valueRoster,
        roster_of_named isOwn, if_pos member]
    rw [if_pos present, if_pos ((mem_roster_iff member env).mpr present), roster_expandFirst replaced, roster_filter apart]
  · have absent : name ∉ roster names env := fun there => present ((mem_roster_iff member env).mp there)
    rw [if_neg present, if_neg absent, roster_append, valueRoster]

theorem roster_preserve (apart : Convention.backupName name ∉ names) (env : List Json) :
    roster names (Env.preserve env name) = roster names env := by
  unfold Env.preserve
  split
  · rfl
  · refine roster_expandFirst (fun entry is => ?_) env
    rw [roster_cons, roster_of_named (named_rename is), if_neg apart, List.nil_append]

/-- Variables that are set one after another: those that were there stay in their order, the others follow in the order
in which they are set. -/
theorem roster_foldl_set (primary : Env.Primary names) {vars : List EnvVar} (nodup : (vars.map EnvVar.name).Nodup)
    (inside : ∀ var ∈ vars, var.name ∈ names) (env : List Json) :
    roster names (vars.foldl (fun env var => Env.set env var.name var.toJson) env) =
      roster names env ++ (vars.map EnvVar.name).filter (· ∉ roster names env) := by
  induction vars generalizing env with
  | nil => simp
  | cons var rest ih =>
    obtain ⟨fresh, restNodup⟩ := List.nodup_cons.mp nodup
    have member := inside var List.mem_cons_self
    have apart : Convention.backupName var.name ∉ names := fun there => primary _ there _ member rfl
    have step := roster_set member apart (named_toJson var) env
    rw [List.foldl_cons, ih restNodup (fun other later => inside other (List.mem_cons_of_mem _ later)), step,
      List.map_cons]
    by_cases present : var.name ∈ roster names env
    · simp [present]
    · have later : (rest.map EnvVar.name).filter (· ∉ roster names env ++ [var.name]) =
          (rest.map EnvVar.name).filter (· ∉ roster names env) := by
        refine List.filter_congr fun other there => ?_
        have ne : other ≠ var.name := fun same => fresh (same ▸ there)
        simp [ne]
      simp only [present, if_false, later, List.append_assoc, not_false_eq_true, decide_true, List.filter_cons_of_pos,
        List.singleton_append]

theorem roster_foldl_preserve (primary : Env.Primary names) {kept : List String} (inside : ∀ name ∈ kept, name ∈ names)
    (env : List Json) : roster names (kept.foldl Env.preserve env) = roster names env := by
  induction kept generalizing env with
  | nil => rfl
  | cons name rest ih =>
    have apart : Convention.backupName name ∉ names :=
      fun there => primary _ there _ (inside name List.mem_cons_self) rfl
    rw [List.foldl_cons, ih fun other later => inside other (List.mem_cons_of_mem _ later), roster_preserve apart]

/-- What stands before the first of some others stands before it in what is left of the list. -/
theorem mem_takeWhile_filter {α : Type} {p q : α → Bool} {a : α} {items : List α} (member : a ∈ items.takeWhile q)
    (kept : p a = true) : a ∈ (items.filter p).takeWhile q := by
  induction items with
  | nil => exact member
  | cons item rest ih =>
    rw [List.takeWhile_cons] at member
    split at member
    · rename_i passes
      rcases List.mem_cons.mp member with rfl | later
      · simp [kept, passes]
      · by_cases stays : p item = true
        · rw [List.filter_cons_of_pos stays, List.takeWhile_cons_of_pos passes]
          exact List.mem_cons_of_mem _ (ih later)
        · rw [List.filter_cons_of_neg stays]
          exact ih later
    · cases member

variable {load : Load}

/-- An injection keeps the order of the reserved variables that are there and appends the others in its own. Nothing is
assumed of the list. -/
theorem roster_injectEnv (h : load.Reversible) (env : List Json) :
    roster Fragment.reservedEnv (injectEnv load env) = roster Fragment.reservedEnv env ++
      (load.env.map EnvVar.name).filter (· ∉ roster Fragment.reservedEnv env) := by
  have isSet := roster_foldl_set primary_reserved h.env h.reserved env
  have untouched : ∀ name ∈ load.untouched, name ∈ Fragment.reservedEnv :=
    fun name member => (Load.mem_untouched_iff.mp member).1
  have isKept := roster_foldl_preserve primary_reserved untouched
    (load.env.foldl (fun env var => Env.set env var.name var.toJson) env)
  have marker : roster Fragment.reservedEnv [markerEntry] = [] :=
    (roster_of_named named_markerEntry).trans (if_neg Fragment.marker_not_reserved)
  unfold injectEnv
  simp only
  split
  · rw [isKept, isSet]
  · rw [roster_append, marker, List.append_nil, isKept, isSet]

/-- Of two variables that are set one before the other, the first stands before the second afterwards, unless the second
was there before and the first was not there before it. -/
theorem standsBefore_injectEnv_iff (h : load.Reversible) {first second : String}
    (order : first ∈ (load.env.map EnvVar.name).takeWhile (· ≠ second)) (secondReserved : second ∈ Fragment.reservedEnv)
    (env : List Json) : StandsBefore first second (injectEnv load env) ↔
      env.find? (named second) = none ∨ StandsBefore first second env := by
  have isSet : first ∈ load.env.map EnvVar.name := (List.takeWhile_sublist _).subset order
  have firstReserved : first ∈ Fragment.reservedEnv := by
    obtain ⟨var, member, rfl⟩ := List.mem_map.mp isSet
    exact h.reserved var member
  have ne : first ≠ second := by simpa using List.mem_takeWhile_imp order
  rw [standsBefore_iff firstReserved secondReserved, standsBefore_iff firstReserved secondReserved, roster_injectEnv h]
  have there := mem_roster_iff secondReserved env
  rw [any_named_eq_isSome] at there
  generalize roster Fragment.reservedEnv env = before at there ⊢
  by_cases present : second ∈ before
  · -- What is appended stands behind the second variable.
    have found : env.find? (named second) ≠ none := Option.isSome_iff_ne_none.mp (there.mp present)
    have cut : ¬ (before.takeWhile (· ≠ second)).length = before.length := by
      intro all
      have kept := List.takeWhile_eq_self_iff.mp
        ((List.takeWhile_prefix (l := before) (· ≠ second)).eq_of_length all) second present
      simp at kept
    rw [List.takeWhile_append, if_neg cut]
    simp [found]
  · have absent : env.find? (named second) = none :=
      Option.not_isSome_iff_eq_none.mp fun some => present (there.mpr some)
    have whole : before.takeWhile (· ≠ second) = before :=
      List.takeWhile_eq_self_iff.mpr fun other member => by
        simpa using fun same : other = second => present (same ▸ member)
    rw [List.takeWhile_append, whole, if_pos rfl]
    refine iff_of_true ?_ (.inl absent)
    by_cases already : first ∈ before
    · exact List.mem_append_left _ already
    · exact List.mem_append_right _ (mem_takeWhile_filter order (by simpa using already))

/-- A variable that no other of the load overrides has its value afterwards. -/
theorem find?_injectEnv_of_alone (inside : ∀ var ∈ load.env, var.name ∈ Fragment.reservedEnv) {env : List Json}
    (unmarked : env.find? (named Convention.marker) = none) {var : EnvVar} (member : var ∈ load.env)
    (alone : ∀ other ∈ load.env, other.name = var.name → other = var) :
    (injectEnv load env).find? (named var.name) = some var.toJson := by
  have reserved := inside var member
  have set : (var.name, some var.toJson) ∈ load.steps := List.mem_append_left _ (List.mem_map.mpr ⟨var, member, rfl⟩)
  have once : ∀ step ∈ load.steps, step.1 = var.name → step.2 = some var.toJson := by
    intro step inSteps same
    rcases List.mem_append.mp inSteps with isSet | isKept
    · obtain ⟨other, there, rfl⟩ := List.mem_map.mp isSet
      rw [alone other there same]
    · obtain ⟨name, untouched, rfl⟩ := List.mem_map.mp isKept
      have is : name = var.name := same
      exact absurd (List.mem_map_of_mem member) (is ▸ (Load.mem_untouched_iff.mp untouched).2)
  rw [injectEnv_eq inside unmarked, (Env.ignores_append (marker_apart _ reserved).1).find?_eq]
  exact Env.find?_changes primary_reserved load.steps_proper (Load.steps_reserved inside) reserved
    (named_toJson var) once (.inr set)

/-- A variable that is set has the value of the load afterwards. -/
theorem find?_injectEnv (h : load.Reversible) {env : List Json}
    (unmarked : env.find? (named Convention.marker) = none) {var : EnvVar} (member : var ∈ load.env) :
    (injectEnv load env).find? (named var.name) = some var.toJson :=
  find?_injectEnv_of_alone h.reserved unmarked member fun _ there same =>
    List.inj_on_of_nodup_map h.env there member same

/-- In every container, a reference to a field of the pod resolves unless the customer has the referring variable and
not, before it, one of the field's name. An injection puts the fields first only among the variables that it adds; one
that is there stays in its place. -/
theorem references_resolve_iff {object : Json} {g : Governing} {state : InjectionState} (nodup : g.platforms.Nodup)
    (run : (mutate object g).outcome = .ok (some state)) :
    ∃ resource made, g.resource = some resource ∧
      Fragment.env g.pod g.platforms resource.appLogsEnabled resource.connectionString g.cluster = .ok made ∧
      List.Forall₂ (fun before after =>
          let own := revertEnv (isInjected object) (listed (before.get? "env"))
          ∀ var ∈ made, (listed (after.get? "env")).find? (named var.name) = some var.toJson ∧
            ∀ field ∈ made, field.IsField → var.RefersTo field.name →
              (StandsBefore field.name var.name (listed (after.get? "env")) ↔
                own.find? (named var.name) = none ∨ StandsBefore field.name var.name own))
        (PodIdentity.containers object) (PodIdentity.containers (mutate object g).object) := by
  obtain ⟨resource, load, has, platforms, loadMade, each⟩ := containers_mutate_injected run
  obtain ⟨_, _, _, _, _, _, envMade, _⟩ := Load.make_eq_ok loadMade
  have reversible := Load.reversible platforms nodup loadMade
  refine ⟨resource, load.env, has, envMade, ?_⟩
  rw [injectContainers_eq_ok_iff, List.forall₂_map_left_iff] at each
  refine each.imp fun before after one var member => ?_
  have injected := listed_env_injectContainer one
  rw [get?_env_revertContainer, listed_shrink revertEnv_nil] at injected
  rw [injected]
  refine ⟨find?_injectEnv reversible (find?_marker_revertEnv _ _) member, ?_⟩
  rintro field fieldMember isField ⟨text, isText, _⟩
  have isValue : ¬ var.IsField := by
    rintro ⟨path, isPath⟩
    cases isText.symm.trans isPath
  have order := Fragment.field_before nodup envMade fieldMember isField member isValue
  exact standsBefore_injectEnv_iff reversible order (reversible.reserved var member) _

/-- A workload with attributes of its own. -/
def attributedWorkload : Json := .obj [("spec", .obj [("template", .obj [("spec", .obj [("containers", .arr [
  .obj [("env", .arr [.obj [("name", .str Fragment.resourceAttributesName), ("value", .str "team=a")]]),
    ("name", .str "main")]])])])])]

theorem reference_unresolved :
    (mutate attributedWorkload (governing [.java])).outcome = .ok (some ⟨"default", "", [.java]⟩) ∧
    ∀ name ∈ ["NODE_NAME", "POD_NAMESPACE", "POD_NAME", "POD_UID"],
      EnvVar.RefersTo ⟨Fragment.resourceAttributesName, .value (Fragment.resourceAttributes {} {})⟩ name ∧
      ∀ container ∈ PodIdentity.containers (mutate attributedWorkload (governing [.java])).object,
        ¬ StandsBefore name Fragment.resourceAttributesName (listed (container.get? "env")) := by
  obtain ⟨resource, made, has, run, each⟩ := @references_resolve_iff attributedWorkload (governing [.java])
    ⟨"default", "", [.java]⟩ (by decide) rfl
  cases has
  cases run
  refine ⟨rfl, fun name member => ?_⟩
  have refers := Fragment.resourceAttributes_refer {} {} name member
  refine ⟨refers, ?_⟩
  have fields : ∃ path, EnvVar.mk name (.field path) ∈ Fragment.commonEnv {} "key" {} := by
    simp only [List.mem_cons, List.not_mem_nil, or_false] at member
    rcases member with rfl | rfl | rfl | rfl <;> simp [Fragment.commonEnv]
  obtain ⟨path, field⟩ := fields
  have single : PodIdentity.containers attributedWorkload = [.obj [("env", .arr [.obj [
    ("name", .str Fragment.resourceAttributesName), ("value", .str "team=a")]]), ("name", .str "main")]] := rfl
  rw [single, List.forall₂_cons_left_iff] at each
  obtain ⟨after, others, resolved, none, afters⟩ := each
  cases List.forall₂_nil_left_iff.mp none
  rw [afters]
  intro container isAfter
  cases List.mem_singleton.mp isAfter
  have set : EnvVar.mk Fragment.resourceAttributesName (.value (Fragment.resourceAttributes {} {})) ∈
      Fragment.commonEnv {} "key" {} := by simp [Fragment.commonEnv]
  rw [(resolved _ (List.mem_append_left _ set)).2 _ (List.mem_append_left _ field) ⟨path, rfl⟩ refers]
  rintro (absent | ⟨entry, there, _⟩)
  · cases absent
  · cases there

end Injection

end Graft
