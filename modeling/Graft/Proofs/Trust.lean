import Graft.Api.Certificates
import Graft.Proofs.Rollout

namespace Graft

namespace Dialogue

variable {Call : Type} {Reply : Call → Type} {α β : Type}

/-- Whatever the answers are, the result has a property. -/
def Yields (P : α → Prop) : Dialogue Call Reply α → Prop
  | done result => P result
  | note _ next => Yields P next
  | pause _ next => Yields P next
  | ask _ next => ∀ reply, Yields P (next reply)

variable {P : α → Prop}

theorem Yields.bind {d : Dialogue Call Reply β} {f : β → Dialogue Call Reply α} (later : ∀ b, (f b).Yields P) :
    (d.bind f).Yields P := by
  induction d with
  | done result => exact later result
  | note observation next ih => exact ih
  | pause delay next ih => exact ih
  | ask call next ih => exact ih

theorem Yields.via {Call' : Type} {Reply' : Call' → Type} {d : Dialogue Call Reply α} (yields : d.Yields P)
    (carry : (call : Call) → Dialogue Call' Reply' (Reply call)) : (d.via carry).Yields P := by
  induction d with
  | done result => exact yields
  | note observation next ih => exact ih yields
  | pause delay next ih => exact ih yields
  | ask call next ih => exact .bind fun reply => ih reply (yields reply)

theorem Yields.run {σ : Type} {d : Dialogue Call Reply α} (yields : d.Yields P)
    (answer : (call : Call) → σ → Option (Reply call) × σ) (jitter : Nat → Jitter) {c after : Course σ} {result : α}
    (ran : d.run answer jitter c = (some result, after)) : P result := by
  induction d generalizing c with
  | done value =>
    cases ran
    exact yields
  | note observation next ih => exact ih yields ran
  | pause delay next ih => exact ih yields ran
  | ask call next ih =>
    rw [Dialogue.run] at ran
    split at ran
    · exact ih _ (yields _) ran
    · cases ran

end Dialogue

namespace Certificate

/-- What the job does once it has read. -/
def settle (unfit : Material → Option Reason) (fresh : Except Error Material) (stored : Option Material)
    (bundle : Option String) : Dialogue Call Reply (Except Graft.Error Outcome) :=
  match faultOf unfit stored bundle with
  | none => .done (.ok .upToDate)
  | some reason =>
    match fresh with
    | .error e => .done (.error (.certificate e))
    | .ok m => rollOut m reason

theorem yields_rollOut (m : Material) (reason : Reason) : (rollOut m reason).Yields (· ≠ .ok .upToDate) := by
  rintro (e | written)
  · exact nofun
  rintro (e | trusted)
  · exact nofun
  rintro (e | restarted) <;> exact nofun

theorem yields_settle {unfit : Material → Option Reason} {stored : Option Material} {bundle : Option String}
    {reason : Reason} (fault : faultOf unfit stored bundle = some reason) (fresh : Except Error Material) :
    (settle unfit fresh stored bundle).Yields (· ≠ .ok .upToDate) := by
  rw [settle, fault]
  cases fresh with
  | error e => exact nofun
  | ok m => exact yields_rollOut m reason

end Certificate

/-- The API server takes the server of a webhook for genuine if an authority has certified it, whose certificate is the
bundle of the entry. -/
def WebhookEntry.Trusts (e : WebhookEntry) (caCert : String) : Prop := e.caBundle = some (Text.Utf8.encode caCert)

instance (e : WebhookEntry) (caCert : String) : Decidable (e.Trusts caCert) := inferInstanceAs (Decidable (_ = _))

theorem Text.Utf8.decode?_eq_some_iff {bytes : List UInt8} {text : String} :
    decode? bytes = some text ↔ bytes = encode text := by
  constructor
  · intro decoded
    rw [decode?, String.fromUTF8?] at decoded
    split at decoded
    · cases decoded
      rfl
    · cases decoded
  · rintro rfl
    exact decode?_encode text

theorem WebhookConfiguration.firstBundle_eq_some_iff {c : WebhookConfiguration} {caCert : String} :
    c.firstBundle = some caCert ↔ ∃ first others, c.entries.getD [] = first :: others ∧ first.Trusts caCert := by
  rw [firstBundle]
  cases c.entries.getD [] with
  | nil => simp
  | cons first others => simp [WebhookEntry.Trusts, Text.Utf8.decode?_eq_some_iff, Option.bind_eq_some_iff]

namespace Api.Certificates

open Certificate (Material Secret Reason Outcome faultOf settle)

/-- What the job decides by: the Secret, and then the configuration. -/
def findings : Exchange (Except Error (Option Secret × Option WebhookConfiguration)) :=
  (readObject (secrets.object Secret.name) Secret.read).bind fun
    | .error e => .done (.error e)
    | .ok secret => readConfiguration.bind fun outcome => .done (outcome.map (Prod.mk secret))

/-- What a pass is content with: material that is fit, and a first entry that trusts it. -/
def Content (unfit : Material → Option Reason) (secret : Secret) (entries : List WebhookEntry) : Prop :=
  unfit (Material.ofSecret secret) = none ∧
    ∃ first others, entries = first :: others ∧ first.Trusts (Material.ofSecret secret).caCert

theorem faultOf_found_iff {unfit : Material → Option Reason} {secret : Option Secret}
    {configuration : Option WebhookConfiguration} :
    faultOf unfit (secret.map Material.ofSecret) (configuration.bind WebhookConfiguration.firstBundle) = none ↔
      ∃ s c, secret = some s ∧ configuration = some c ∧ Content unfit s (c.entries.getD []) := by
  rw [Certificate.faultOf_eq_none_iff]
  constructor
  · rintro ⟨m, stored, fit, bundle⟩
    obtain ⟨s, rfl, rfl⟩ := Option.map_eq_some_iff.mp stored
    obtain ⟨c, rfl, first⟩ := Option.bind_eq_some_iff.mp bundle
    exact ⟨s, c, rfl, rfl, fit, WebhookConfiguration.firstBundle_eq_some_iff.mp first⟩
  · rintro ⟨s, c, rfl, rfl, fit, first⟩
    exact ⟨_, rfl, fit, WebhookConfiguration.firstBundle_eq_some_iff.mpr first⟩

section Pass

variable (unfit : Material → Option Reason) (fresh : Except Certificate.Error Material) (now : Time.Instant)

/-- A pass of the job over a cluster. -/
def pass : Exchange (Except Graft.Error Outcome) := (Certificate.reconcile unfit fresh).via (carry now)

theorem pass_eq : pass unfit fresh now = findings.bind fun
    | .error e => .done (.error (.kube e))
    | .ok (secret, configuration) =>
      (settle unfit fresh (secret.map Material.ofSecret) (configuration.bind WebhookConfiguration.firstBundle)).via
        (carry now) := by
  change (carry now .readMaterial).bind _ = _
  rw [carry, readMaterial, findings]
  simp only [Dialogue.bind_assoc]
  congr 1
  funext outcome
  cases outcome with
  | error e => rfl
  | ok secret =>
    change (carry now .readBundle).bind _ = _
    rw [carry, readBundle]
    simp only [Dialogue.bind_assoc]
    congr 1
    funext outcome
    cases outcome with
    | error e => rfl
    | ok configuration => rfl

variable {σ : Type} (answer : Request → σ → Option (Except String Response) × σ) (jitter : Nat → Jitter)

/-- A cluster answers the job with a Secret and a configuration of some entries. -/
def Finds (c : Dialogue.Course σ) (secret : Secret) (entries : List WebhookEntry) (after : Dialogue.Course σ) : Prop :=
  ∃ configuration : WebhookConfiguration, configuration.entries.getD [] = entries ∧
    findings.run answer jitter c = (some (.ok (some secret, some configuration)), after)

/-- A pass is content where it has found content, and goes no further then. What answers the calls may be anything, and
may change on the way. -/
theorem run_pass_iff (c after : Dialogue.Course σ) :
    (pass unfit fresh now).run answer jitter c = (some (.ok .upToDate), after) ↔
      ∃ secret entries, Finds answer jitter c secret entries after ∧ Content unfit secret entries := by
  rw [pass_eq, Dialogue.run_bind]
  constructor
  · intro ran
    split at ran
    · rename_i outcome reached found
      match outcome with
      | .error e => cases ran
      | .ok (secret, configuration) =>
        cases fault : faultOf unfit (secret.map Material.ofSecret)
            (configuration.bind WebhookConfiguration.firstBundle) with
        | none =>
          obtain ⟨s, conf, rfl, rfl, content⟩ := faultOf_found_iff.mp fault
          simp only [settle, fault] at ran
          cases ran
          exact ⟨s, _, ⟨conf, rfl, found⟩, content⟩
        | some reason =>
          -- A roll-out ends with one of the other outcomes, whatever the server answers.
          exact absurd rfl (((Certificate.yields_settle fault fresh).via (carry now)).run answer jitter ran)
    · cases ran
  · rintro ⟨secret, entries, ⟨configuration, rfl, found⟩, content⟩
    have fault := faultOf_found_iff.mpr ⟨secret, configuration, rfl, rfl, content⟩
    simp only [found, settle, fault]
    rfl

/-- A pass that finds nothing to do leaves every webhook trusted if the entries behind the first are: it is content
whatever stands in them. Only the first entry of the configuration is looked at, while every one of them is written. -/
theorem upToDate_trusts_iff (c after : Dialogue.Course σ) :
    ((pass unfit fresh now).run answer jitter c = (some (.ok .upToDate), after) ↔
      ∃ secret entries, Finds answer jitter c secret entries after ∧ Content unfit secret entries) ∧
    ∀ secret entries, Finds answer jitter c secret entries after →
      (pass unfit fresh now).run answer jitter c = (some (.ok .upToDate), after) →
      ((∀ e ∈ entries, e.Trusts (Material.ofSecret secret).caCert) ↔
        ∀ e ∈ entries.tail, e.Trusts (Material.ofSecret secret).caCert) := by
  refine ⟨run_pass_iff unfit fresh now answer jitter c after, ?_⟩
  rintro secret entries ⟨configuration, rfl, found⟩ ran
  obtain ⟨_, _, ⟨_, rfl, found'⟩, -, first, others, entries, trusts⟩ :=
    (run_pass_iff unfit fresh now answer jitter c after).mp ran
  rw [found] at found'
  cases found'
  rw [entries, List.tail_cons, List.forall_mem_cons]
  exact and_iff_right trusts

end Pass

section Witness

/-- A webhook that trusts an authority. -/
def trustingWebhook (webhook caCert : String) : WebhookEntry where
  caBundle := some (Text.Utf8.encode caCert)
  client := []
  others := [("admissionReviewVersions", .arr []), ("name", .str webhook), ("sideEffects", .str "")]

def keptSecret : Secret := { data := some [("ca.cert", Text.Utf8.encode "CA")] }

/-- A server that has the Secret and two webhooks, of which the second trusts another authority. -/
def halfTrusting (r : Request) (_ : Unit) : Option (Except String Response) × Unit :=
  let body := if some r = secrets.object Secret.name then "\x7b\"data\":\x7b\"ca.cert\":\"Q0E=\"\x7d\x7d"
    else "\x7b\"webhooks\":["
      ++ "\x7b\"admissionReviewVersions\":[],\"clientConfig\":\x7b\"caBundle\":\"Q0E=\"\x7d,"
      ++ "\"name\":\"a\",\"sideEffects\":\"\"\x7d,"
      ++ "\x7b\"admissionReviewVersions\":[],\"clientConfig\":\x7b\"caBundle\":\"T0xE\"\x7d,"
      ++ "\"name\":\"b\",\"sideEffects\":\"\"\x7d]\x7d"
  (some (.ok { status := 200, body }), ())

/-- The surroundings of the first pass. -/
def outset : Dialogue.Course Unit := { state := () }

instance decidableEqExcept {ε α : Type} [DecidableEq ε] [DecidableEq α] : DecidableEq (Except ε α)
  | .ok a, .ok b => decidable_of_iff (a = b) (by rw [Except.ok.injEq])
  | .error e, .error f => decidable_of_iff (e = f) (by rw [Except.error.injEq])
  | .ok _, .error _ => isFalse nofun
  | .error _, .ok _ => isFalse nofun

theorem findings_halfTrusting : (findings.run halfTrusting (fun _ => default) outset).1 =
    some (.ok (some keptSecret, some ⟨some [trustingWebhook "a" "CA", trustingWebhook "b" "OLD"]⟩)) := by
  decide +kernel

/-- A pass is content although the second webhook trusts another authority than the stored one. -/
theorem second_webhook_untrusted : ∃ entries after,
    Finds halfTrusting (fun _ => default) outset keptSecret entries after ∧
    (pass (fun _ => none) (.error (.unreadable .pem)) default).run halfTrusting (fun _ => default) outset =
      (some (.ok .upToDate), after) ∧
    ¬ ∀ e ∈ entries, e.Trusts (Material.ofSecret keptSecret).caCert := by
  obtain ⟨after, goes⟩ : ∃ after, (findings.run halfTrusting (fun _ => default) outset).2 = after := ⟨_, rfl⟩
  obtain ⟨content, trusts⟩ := upToDate_trusts_iff (fun _ => none) (.error (.unreadable .pem)) default halfTrusting
    (fun _ => default) outset after
  have finds : Finds halfTrusting (fun _ => default) outset keptSecret
      [trustingWebhook "a" "CA", trustingWebhook "b" "OLD"] after :=
    ⟨⟨some _⟩, rfl, Prod.ext findings_halfTrusting goes⟩
  have upToDate := content.mpr ⟨_, _, finds, rfl, _, _, rfl, by decide +kernel⟩
  refine ⟨_, after, finds, upToDate, fun all => ?_⟩
  have behind := (trusts _ _ finds upToDate).mp all
  exact absurd (behind _ List.mem_cons_self) (by decide +kernel)

end Witness

end Api.Certificates

end Graft
