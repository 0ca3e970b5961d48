import Graft.Json.Patch
import Graft.Proofs.Alter

namespace Graft.Json

namespace Pointer

/-- A token that is no position in an array, so that it can only name a member. -/
def IsName (token : String) : Prop := token ≠ "-" ∧ token.toList.all (fun c => '0' ≤ c ∧ c ≤ '9') = false

instance (token : String) : Decidable (IsName token) := inferInstanceAs (Decidable (_ ∧ _))

theorem IsName.index?_eq_none {token : String} (name : IsName token) (count : Nat) : index? token count = none := by
  exact if_neg fun ⟨_, digits, _⟩ => Bool.false_ne_true (name.2.symm.trans digits)

theorem IsName.child?_eq_get? {token : String} (name : IsName token) (value : Json) :
    child? token value = value.get? token := by
  cases value <;> simp [child?, Json.get?, name.index?_eq_none]

theorem getAt?_eq_path? {tokens : List String} (names : ∀ token ∈ tokens, IsName token) (value : Json) :
    getAt? tokens value = value.path? tokens := by
  induction tokens generalizing value with
  | nil => rfl
  | cons token rest ih =>
    have rest := funext (ih fun token member => names token (List.mem_cons_of_mem _ member))
    rw [getAt?, Json.path?, (names token List.mem_cons_self).child?_eq_get?, rest]

theorem getAt?_append (first second : List String) (value : Json) :
    getAt? (first ++ second) value = (getAt? first value).bind (getAt? second) := by
  induction first generalizing value with
  | nil => rfl
  | cons token rest ih =>
    simp only [List.cons_append, getAt?, Option.bind_assoc]
    exact congrArg _ (funext ih)

theorem index?_lt {token : String} {count i : Nat} (found : index? token count = some i) : i < count := by
  unfold index? at found
  simp only at found
  split at found
  · split at found
    · cases found
      assumption
    · cases found
  · cases found

theorem child?_setChild {token : String} {value old : Json} (found : child? token value = some old) (new : Json) :
    child? token (setChild token new value) = some new := by
  cases value with
  | obj members => exact Keyed.get?_insert_self _ _ _
  | arr items =>
    obtain ⟨i, at_i, _⟩ := Option.bind_eq_some_iff.mp found
    simp [setChild, child?, at_i, index?_lt at_i]
  | _ => cases found

theorem updateAt?_cons (f : Json → Option Json) (token : String) (rest : List String) (value : Json) :
    updateAt? f (token :: rest) value =
      (child? token value).bind fun inner => (updateAt? f rest inner).map fun new => setChild token new value := by
  simp only [updateAt?, Option.map_eq_bind]
  rfl

/-- A value that can be updated is, where it is, and its place then has the new value. Of other places nothing is
said. -/
theorem exists_updateAt? {f : Json → Option Json} {tokens : List String} {value old new : Json}
    (found : getAt? tokens value = some old) (made : f old = some new) :
    ∃ result, updateAt? f tokens value = some result ∧ getAt? tokens result = some new := by
  induction tokens generalizing value with
  | nil =>
    cases found
    exact ⟨new, made, rfl⟩
  | cons token rest ih =>
    obtain ⟨inner, atToken, found⟩ := Option.bind_eq_some_iff.mp found
    obtain ⟨result, run, there⟩ := ih found
    refine ⟨setChild token result value, by simp [updateAt?_cons, atToken, run], ?_⟩
    rw [getAt?, child?_setChild atToken]
    exact there

theorem updateAt?_eq_none {f : Json → Option Json} {tokens : List String} {value : Json}
    (none : (getAt? tokens value).bind f = none) : updateAt? f tokens value = Option.none := by
  induction tokens generalizing value with
  | nil => exact none
  | cons token rest ih =>
    rw [updateAt?_cons]
    cases atToken : child? token value with
    | none => rfl
    | some inner =>
      rw [getAt?, atToken] at none
      rw [Option.bind_some, ih none, Option.map_none]

end Pointer

namespace Operation

/-- A member can be added to an object, and is there afterwards, also where one of its name was there before. -/
theorem exists_add {tokens : List String} {doc : Json} {members : Members}
    (found : Pointer.getAt? tokens doc = some (.obj members)) (name : String) (value : Json) :
    ∃ result, perform? doc (.add ⟨tokens ++ [name]⟩ value) = some result ∧
      Pointer.getAt? tokens result = some (.obj (Keyed.insert name value members)) ∧
      Pointer.getAt? (tokens ++ [name]) result = some value := by
  have made : addChild? name value (.obj members) = some (.obj (Keyed.insert name value members)) := rfl
  obtain ⟨result, run, there⟩ := Pointer.exists_updateAt? found made
  refine ⟨result, by simpa [perform?, addAt?] using run, there, ?_⟩
  simp [Pointer.getAt?_append, there, Pointer.getAt?, Pointer.child?]

/-- A member is added to an object only. A name that is no position keeps arrays out. -/
theorem add_eq_none {tokens : List String} {name : String} (isName : Pointer.IsName name) {doc : Json}
    (notObject : ∀ members, Pointer.getAt? tokens doc ≠ some (.obj members)) (value : Json) :
    perform? doc (.add ⟨tokens ++ [name]⟩ value) = none := by
  have none : (Pointer.getAt? tokens doc).bind (addChild? name value) = none := by
    cases found : Pointer.getAt? tokens doc with
    | none => rfl
    | some inner =>
      cases inner with
      | obj members => exact absurd found (notObject members)
      | arr items => simp [addChild?, isName.1, isName.index?_eq_none]
      | _ => rfl
  simpa [perform?, addAt?] using Pointer.updateAt?_eq_none none

/-- A member that is there can be removed. -/
theorem exists_remove {tokens : List String} {name : String} {doc : Json} {members : Members}
    (found : Pointer.getAt? tokens doc = some (.obj members)) (has : Keyed.contains name members = true) :
    ∃ result, perform? doc (.remove ⟨tokens ++ [name]⟩) = some result := by
  have made : removeChild? name (.obj members) = some (.obj (Keyed.erase name members)) := if_pos has
  obtain ⟨result, run, _⟩ := Pointer.exists_updateAt? found made
  exact ⟨result, by simpa [perform?, removeAt?] using run⟩

end Operation

namespace Patch

theorem perform?_append (first second : Patch) (doc : Json) :
    perform? (first ++ second) doc = (perform? first doc).bind (perform? second) :=
  List.foldlM_append

theorem perform?_cons (operation : Operation) (rest : Patch) (doc : Json) :
    perform? (operation :: rest) doc = (Operation.perform? doc operation).bind (perform? rest) := rfl

@[simp] theorem perform?_nil (doc : Json) : perform? [] doc = some doc := rfl

/-- A patch that ends by replacing the whole value yields it, if the rest applies. What the rest has made is of no
consequence then. -/
theorem perform?_append_replace (first : Patch) (doc value : Json) :
    perform? (first ++ [.replace ⟨[]⟩ value]) doc = (perform? first doc).map fun _ => value := by
  rw [perform?_append]
  cases perform? first doc <;> rfl

end Patch

end Graft.Json
