import Graft.Proofs.Fields
import Graft.Workload

namespace Graft

open Json

theorem Except.bind_eq_ok_iff {ε α β : Type} {step : Except ε α} {next : α → Except ε β} {result : β} :
    (step >>= next) = .ok result ↔ ∃ value, step = .ok value ∧ next value = .ok result := by
  cases step <;> simp [bind, Except.bind]

theorem Except.map_eq_ok_iff {ε α β : Type} {f : α → β} {step : Except ε α} {result : β} :
    step.map f = .ok result ↔ ∃ value, step = .ok value ∧ f value = result := by
  cases step <;> simp [Except.map]

namespace Json

/-- The name of the first of sorted members is not the name of another. -/
theorem get?_rest_of_sorted {key : String} {value : Json} {rest : Members}
    (sorted : Keyed.Sorted ((key, value) :: rest)) : Keyed.get? key rest = none :=
  Keyed.get?_eq_none fun m member same =>
    String.lt_irrefl key (same ▸ (List.pairwise_cons.mp sorted).1 m member)

variable {schema : Keyed Reader.Check} {key : String} {members : Members}

/-- A field that is known holds what the member of its name holds. -/
theorem Record.get?_takeLenient (known : schema.get? key ≠ none) (sorted : Keyed.Sorted members)
    {seen fields : Keyed Draft} (run : takeLenient schema true seen (draftMembers members) = .ok fields) :
    fields.get? key = ((Keyed.get? key members).map draft).or (seen.get? key) := by
  induction members generalizing seen with
  | nil =>
    cases run
    rfl
  | cons m rest ih =>
    obtain ⟨k, v⟩ := m
    have later := (List.pairwise_cons.mp sorted).2
    rw [draftMembers, takeLenient] at run
    rw [Keyed.get?_cons]
    by_cases same : k = key
    · subst same
      obtain ⟨test, tested⟩ := Option.ne_none_iff_exists'.mp known
      simp only [tested] at run
      obtain ⟨_, _, run⟩ := Except.bind_eq_ok_iff.mp run
      rw [ih later run, get?_rest_of_sorted sorted, Keyed.get?_insert_self]
      simp
    · rw [if_neg same]
      cases tested : schema.get? k with
      | none =>
        simp only [tested] at run
        obtain ⟨_, _, run⟩ := Except.bind_eq_ok_iff.mp run
        exact ih later run
      | some test =>
        simp only [tested] at run
        obtain ⟨_, _, run⟩ := Except.bind_eq_ok_iff.mp run
        rw [ih later run, Keyed.get?_insert_of_ne (Ne.symm same)]

/-- Members that are no field are kept, in their order. -/
theorem Record.takeOpen_eq_ok (sorted : Keyed.Sorted members) {seen fields : Keyed Draft} {others left : Members}
    (run : takeOpen schema true seen others (draftMembers members) = .ok (fields, left)) :
    left = others.reverse ++ members.filter (fun m => (schema.get? m.1).isNone) ∧
      ∀ key, schema.get? key ≠ none →
        fields.get? key = ((Keyed.get? key members).map draft).or (seen.get? key) := by
  induction members generalizing seen others with
  | nil =>
    cases run
    exact ⟨by simp, fun _ _ => rfl⟩
  | cons m rest ih =>
    obtain ⟨k, v⟩ := m
    have later := (List.pairwise_cons.mp sorted).2
    rw [draftMembers, takeOpen] at run
    cases tested : schema.get? k with
    | none =>
      simp only [tested, value?_draft] at run
      obtain ⟨kept, fields⟩ := ih later run
      refine ⟨by simp [kept, tested], fun key known => ?_⟩
      have other : k ≠ key := fun same => known (same ▸ tested)
      rw [fields key known, Keyed.get?_cons, if_neg other]
    | some test =>
      simp only [tested] at run
      split at run
      · cases run
      · obtain ⟨_, _, run⟩ := Except.bind_eq_ok_iff.mp run
        obtain ⟨kept, fields⟩ := ih later run
        refine ⟨by simp [kept, tested], fun key known => ?_⟩
        rw [fields key known, Keyed.get?_cons]
        by_cases same : k = key
        · subst same
          rw [get?_rest_of_sorted sorted, Keyed.get?_insert_self]
          simp
        · rw [if_neg same, Keyed.get?_insert_of_ne (Ne.symm same)]

theorem Record.optional_string {r : Record} {text : Option String}
    (held : r.fields.get? key = (Keyed.get? key members).map draft) (run : r.optional key Reader.string = .ok text) :
    text = (Keyed.get? key members).bind str? := by
  unfold optional orElse at run
  rw [held] at run
  cases found : Keyed.get? key members with
  | none =>
    rw [found] at run
    cases run
    rfl
  | some value =>
    rw [found] at run
    cases value <;> cases run <;> rfl

end Json

namespace TypeMeta

variable {members : Members}

/-- A member that is not part of the type is left where it is. -/
theorem take_left (version kind : Option String) (members : Members) :
    (take version kind members).2.Sublist members ∧ ∀ key, key ≠ "apiVersion" → key ≠ "kind" →
      Keyed.get? key (take version kind members).2 = Keyed.get? key members := by
  induction members generalizing version kind with
  | nil => exact ⟨.refl _, fun _ _ _ => rfl⟩
  | cons m rest ih =>
    obtain ⟨k, v⟩ := m
    have skipped {key : String} (ne : key ≠ k) : Keyed.get? key rest = Keyed.get? key ((k, v) :: rest) := by
      rw [Keyed.get?_cons, if_neg (Ne.symm ne)]
    unfold take
    split
    · rename_i isVersion
      subst isVersion
      split
      · obtain ⟨sub, same⟩ := ih _ _
        exact ⟨sub.cons _, fun key ne ne' => (same key ne ne').trans (skipped ne)⟩
      · exact ⟨(List.Sublist.refl rest).cons _, fun key ne _ => skipped ne⟩
    · split
      · rename_i isKind
        subst isKind
        split
        · obtain ⟨sub, same⟩ := ih _ _
          exact ⟨sub.cons _, fun key ne ne' => (same key ne ne').trans (skipped ne')⟩
        · exact ⟨(List.Sublist.refl rest).cons _, fun key _ ne => skipped ne⟩
      · obtain ⟨sub, same⟩ := ih version kind
        exact ⟨sub.cons_cons _, fun key ne ne' => by rw [Keyed.get?_cons, Keyed.get?_cons, same key ne ne']⟩

/-- Type fields that are strings, each at most once, are taken, wherever they stand among the members. -/
theorem take_found {version kind : Option String} (sorted : Keyed.Sorted members)
    (versionText : ∀ value, Keyed.get? "apiVersion" members = some value → version = none ∧ ∃ text, value = .str text)
    (kindText : ∀ value, Keyed.get? "kind" members = some value → kind = none ∧ ∃ text, value = .str text) :
    (take version kind members).1 = some (((Keyed.get? "apiVersion" members).bind str?).or version,
      ((Keyed.get? "kind" members).bind str?).or kind) := by
  have own (text : String) : str? (.str text) = some text := rfl
  induction members generalizing version kind with
  | nil => rfl
  | cons m rest ih =>
    obtain ⟨k, v⟩ := m
    have later := (List.pairwise_cons.mp sorted).2
    simp only [Keyed.get?_cons] at versionText kindText ⊢
    unfold take
    by_cases isVersion : k = "apiVersion"
    · subst isVersion
      obtain ⟨rfl, text, rfl⟩ := versionText v (by simp)
      have none := get?_rest_of_sorted sorted
      simp only [if_true]
      rw [ih later (by simp [none]) (by simpa using kindText)]
      simp [none, own]
    · by_cases isKind : k = "kind"
      · subst isKind
        obtain ⟨rfl, text, rfl⟩ := kindText v (by simp)
        have none := get?_rest_of_sorted sorted
        simp only [if_true, if_neg isVersion]
        rw [ih later (by simpa using versionText) (by simp [none])]
        simp [none, own]
      · simp only [if_neg isVersion, if_neg isKind] at versionText kindText ⊢
        exact ih later versionText kindText

theorem split_left (members : Members) : (split members).2 = (take none none members).2 := by
  unfold split
  rcases take none none members with ⟨_ | ⟨_ | version, _ | kind⟩, left⟩ <;> rfl

theorem split_found {apiVersion kind : String} (found : (take none none members).1 = some (some apiVersion, some kind)) :
    (split members).1 = some ⟨apiVersion, kind⟩ := by
  unfold split
  generalize take none none members = taken at found
  obtain ⟨found', left⟩ := taken
  cases found
  rfl

end TypeMeta

theorem ObjectMeta.texts_of_read {value : Json} (canonical : value.Canonical) {m : ObjectMeta}
    (run : ObjectMeta.read value.draft = .ok m) : m.name = (value.get? "name").bind str? ∧
      m.ns = (value.get? "namespace").bind str? ∧ m.uid = (value.get? "uid").bind str? := by
  unfold read at run
  simp only [Except.bind_eq_ok_iff] at run
  obtain ⟨r, taken, _, _, _, _, _, _, _, _, _, _, _, _, _, _, _, _, _, _, name, named, ns, located, _, _, _, _, _, _,
    uid, identified, made⟩ := run
  cases made
  cases value with
  | obj members =>
    obtain ⟨fields, run, rfl⟩ := Except.map_eq_ok_iff.mp taken
    have held (key : String) (known : schema.get? key ≠ none) :
        fields.get? key = (Keyed.get? key members).map draft := by
      simpa using Record.get?_takeLenient known canonical.sorted run
    exact ⟨Record.optional_string (held _ (by decide)) named, Record.optional_string (held _ (by decide)) located,
      Record.optional_string (held _ (by decide)) identified⟩
  | _ => cases taken

namespace Workload

/-- What a workload has from the object that it was read from. -/
structure ReadsFrom (w : Workload) (object : Json) : Prop where
  others : ∀ key, key ∉ ["metadata", "apiVersion", "kind"] → Keyed.get? key w.data = object.get? key
  types : ∀ apiVersion kind, object.get? "apiVersion" = some (.str apiVersion) →
    object.get? "kind" = some (.str kind) → w.types = some ⟨apiVersion, kind⟩
  name : w.metadata.name = (object.path? ["metadata", "name"]).bind str?
  ns : w.metadata.ns = (object.path? ["metadata", "namespace"]).bind str?
  uid : w.metadata.uid = (object.path? ["metadata", "uid"]).bind str?

/-- The three parts of a workload that is read. -/
theorem exists_parts {members : Members} {w : Workload} (canonical : (Json.obj members).Canonical)
    (run : ofJson? (.obj members) = some w) : ∃ left, left = Keyed.erase "metadata" members ∧
      w.types = (TypeMeta.split left).1 ∧ w.data = (TypeMeta.split left).2 ∧
      ((Keyed.get? "metadata" members = none ∧ w.metadata = {}) ∨
        ∃ value, Keyed.get? "metadata" members = some value ∧ ObjectMeta.read value.draft = .ok w.metadata) := by
  have read : Workload.read (Json.obj members).draft = .ok w := by
    unfold ofJson? at run
    cases made : Workload.read (Json.obj members).draft with
    | error fault =>
      rw [made] at run
      cases run
    | ok w' =>
      rw [made] at run
      cases run
      rfl
  unfold Workload.read at read
  obtain ⟨⟨r, others⟩, opened, rest⟩ := Except.bind_eq_ok_iff.mp read
  obtain ⟨metadata, given, made⟩ := Except.bind_eq_ok_iff.mp rest
  obtain ⟨⟨fields, _⟩, taken, eq⟩ := Except.map_eq_ok_iff.mp opened
  cases eq
  obtain ⟨kept, held⟩ := Record.takeOpen_eq_ok canonical.sorted taken
  have erased : others = Keyed.erase "metadata" members := by
    rw [kept, List.reverse_nil, List.nil_append]
    refine List.filter_congr fun m _ => ?_
    by_cases same : "metadata" = m.1 <;> simp [Keyed.get?_cons, same, eq_comm]
  cases made
  refine ⟨others, erased, rfl, ?_, ?_⟩
  · -- What is left is canonical, so sorting it changes nothing.
    obtain ⟨sub, _⟩ := TypeMeta.take_left none none others
    rw [← TypeMeta.split_left] at sub
    obtain ⟨sorted, each⟩ := canonical_obj_iff.mp (erased ▸ canonical.erase "metadata")
    have left : (Json.obj (TypeMeta.split others).2).Canonical :=
      canonical_obj_iff.mpr ⟨sorted.sublist sub, fun m member => each m (sub.subset member)⟩
    exact Json.obj.inj left
  · have field := held "metadata" (by decide)
    rw [Keyed.get?_nil, Option.or_none] at field
    unfold Record.orElse at given
    rw [field] at given
    cases found : Keyed.get? "metadata" members with
    | none =>
      rw [found] at given
      cases given
      exact .inl ⟨rfl, rfl⟩
    | some value =>
      rw [found] at given
      exact .inr ⟨value, rfl, given⟩

/-- What is read from a canonical object is, field by field, what stands there. -/
theorem readsFrom_of_ofJson? {object : Json} {w : Workload} (canonical : object.Canonical)
    (run : ofJson? object = some w) : w.ReadsFrom object := by
  cases object with
  | obj members =>
    obtain ⟨left, erased, types, data, metadata⟩ := exists_parts canonical run
    have others (key : String) (ne : key ≠ "metadata") : Keyed.get? key left = Keyed.get? key members := by
      rw [erased, Keyed.get?_erase_of_ne ne]
    have texts : w.metadata.name = ((Json.obj members).path? ["metadata", "name"]).bind str? ∧
        w.metadata.ns = ((Json.obj members).path? ["metadata", "namespace"]).bind str? ∧
        w.metadata.uid = ((Json.obj members).path? ["metadata", "uid"]).bind str? := by
      have inside (key : String) : (Json.obj members).path? ["metadata", key] =
          (Keyed.get? "metadata" members).bind (Json.get? key) :=
        congrArg _ (funext fun _ => Option.bind_fun_some _)
      rw [inside, inside, inside]
      rcases metadata with ⟨absent, empty⟩ | ⟨value, found, read⟩
      · rw [absent, empty]
        exact ⟨rfl, rfl, rfl⟩
      · rw [found]
        exact ObjectMeta.texts_of_read (canonical.get? found) read
    refine ⟨fun key apart => ?_, fun apiVersion kind isVersion isKind => ?_, texts.1, texts.2.1, texts.2.2⟩
    · simp only [List.mem_cons, List.not_mem_nil, or_false, not_or] at apart
      rw [data, TypeMeta.split_left, (TypeMeta.take_left none none left).2 key apart.2.1 apart.2.2, others key apart.1]
      rfl
    · have atVersion : Keyed.get? "apiVersion" left = some (.str apiVersion) := (others _ (by decide)).trans isVersion
      have atKind : Keyed.get? "kind" left = some (.str kind) := (others _ (by decide)).trans isKind
      rw [types]
      refine TypeMeta.split_found ((TypeMeta.take_found ?_ ?_ ?_).trans ?_)
      · exact erased ▸ canonical.sorted.erase "metadata"
      · intro value found
        exact ⟨rfl, apiVersion, Option.some.inj (found.symm.trans atVersion)⟩
      · intro value found
        exact ⟨rfl, kind, Option.some.inj (found.symm.trans atKind)⟩
      · rw [atVersion, atKind]
        rfl
  | _ => cases run

variable (w : Workload)

/-- Members that are neither metadata nor type are written as they were read. -/
theorem get?_toJson {key : String} (apart : key ∉ ["metadata", "apiVersion", "kind"]) :
    w.toJson.get? key = Keyed.get? key w.data := by
  simp only [List.mem_cons, List.not_mem_nil, or_false, not_or] at apart
  obtain ⟨notMetadata, notVersion, notKind⟩ := apart
  refine (Keyed.get?_insert_of_ne notMetadata _ _).trans ?_
  cases w.types with
  | none => rfl
  | some types => exact (Keyed.get?_insert_of_ne notKind _ _).trans (Keyed.get?_insert_of_ne notVersion _ _)

/-- The specification is written as it was read, so what is true of it holds before and after. -/
theorem spec_of_read {object : Json} {w : Workload} (canonical : object.Canonical)
    (run : ofJson? object = some w) : w.toJson.get? "spec" = object.get? "spec" := by
  rw [get?_toJson w (by decide), (readsFrom_of_ofJson? canonical run).others _ (by decide)]

theorem type_toJson {types : TypeMeta} (has : w.types = some types) :
    w.toJson.get? "apiVersion" = some (.str types.apiVersion) ∧ w.toJson.get? "kind" = some (.str types.kind) := by
  unfold toJson
  rw [has]
  constructor
  · refine (Keyed.get?_insert_of_ne (by decide) _ _).trans ?_
    exact (Keyed.get?_insert_of_ne (by decide) _ _).trans (Keyed.get?_insert_self _ _ _)
  · exact (Keyed.get?_insert_of_ne (by decide) _ _).trans (Keyed.get?_insert_self _ _ _)

/-- The texts of the metadata are written where they are read. -/
theorem texts_toJson : (w.toJson.path? ["metadata", "name"]).bind str? = w.metadata.name ∧
    (w.toJson.path? ["metadata", "namespace"]).bind str? = w.metadata.ns ∧
    (w.toJson.path? ["metadata", "uid"]).bind str? = w.metadata.uid := by
  have inside (key : String) : w.toJson.path? ["metadata", key] = w.metadata.toJson.get? key := by
    refine (congrArg (Option.bind · (path? [key])) (Keyed.get?_insert_self _ _ _)).trans ?_
    exact Option.bind_fun_some _
  have text (value : Option String) : (value.map Json.str).bind str? = value := by cases value <;> rfl
  have held (key : String) (field : Option String)
      (is : w.metadata.toJson.get? key = field.map .str) : (w.toJson.path? ["metadata", key]).bind str? = field := by
    rw [inside, is, text]
  exact ⟨held _ _ (get?_ofFields (by simp) _), held _ _ (get?_ofFields (by simp) _),
    held _ _ (get?_ofFields (by simp) _)⟩

end Workload

end Graft
