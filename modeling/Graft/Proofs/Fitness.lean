import Graft.Certificate.Fitness
import Graft.Proofs.PemText

namespace Graft.Certificate

namespace Inspection

/-- What an inspection can tell of texts: which of them it takes over as a key and which as a certificate. Whether a key
belongs to a certificate it does not tell. -/
structure Sees (i : Inspection) (IsKey IsCert : String → Prop) : Prop where
  load {cert key : String} : i.load cert key = .ok () ↔ IsKey key ∧ IsCert cert
  expiry {cert : String} {expiry : Int} : i.expiry cert = .ok expiry → IsCert cert
  noKey : ¬ IsKey ""
  noCert : ¬ IsCert ""

/-- A certificate that does not expire so soon that it would be replaced. -/
def Lasts (i : Inspection) (now : Int) (cert : String) : Prop :=
  ∃ expiry, i.expiry cert = .ok expiry ∧ renewalDays * 86400 ≤ expiry - now

/-- What is looked at before material is kept. -/
structure Sound (i : Inspection) (IsKey : String → Prop) (now : Int) (m : Material) : Prop where
  caKey : IsKey m.caKey
  tlsKey : m.tlsKey ≠ ""
  signed : i.isSignedBy m.tlsCert m.caCert = .ok true
  caLasts : i.Lasts now m.caCert
  tlsLasts : i.Lasts now m.tlsCert

/-- Material that a server can use and that can be renewed. Its four parts are what they should be and belong
together. -/
structure Usable (i : Inspection) (Owns : (key cert : String) → Prop) (now : Int) (m : Material) : Prop where
  caKey : Owns m.caKey m.caCert
  tlsKey : Owns m.tlsKey m.tlsCert
  signed : i.isSignedBy m.tlsCert m.caCert = .ok true
  caLasts : i.Lasts now m.caCert
  tlsLasts : i.Lasts now m.tlsCert

variable {i : Inspection} {now : Int} {m : Material}

theorem lifetimeFault_of_expiry (now : Int) {cert : String} {expiry : Int} (read : i.expiry cert = .ok expiry)
    (role : Role) :
    i.lifetimeFault now role cert = if expiry - now < renewalDays * 86400 then some (.expiring role) else none := by
  rw [lifetimeFault, read]

theorem lifetimeFault_eq_none_iff {role : Role} {cert : String} :
    i.lifetimeFault now role cert = none ↔ i.Lasts now cert := by
  rw [lifetimeFault, Lasts]
  cases i.expiry cert <;> simp

/-- What is left to look at once the authority can be taken over and has signed. -/
theorem faultBy_of_signed (now : Int) (complete : m.isComplete = true) (load : i.load m.caCert m.caKey = .ok ())
    (signed : i.isSignedBy m.tlsCert m.caCert = .ok true) : m.faultBy i now =
      (i.lifetimeFault now .authority m.caCert).orElse fun _ => i.lifetimeFault now .serving m.tlsCert := by
  simp [Material.faultBy, complete, load, signed]

theorem Sound.with_keys_iff {IsKey : String → Prop} (sound : i.Sound IsKey now m) (caKey tlsKey : String) :
    i.Sound IsKey now { m with caKey, tlsKey } ↔ IsKey caKey ∧ tlsKey ≠ "" :=
  ⟨fun other => ⟨other.caKey, other.tlsKey⟩, fun ⟨read, present⟩ =>
    ⟨read, present, sound.signed, sound.caLasts, sound.tlsLasts⟩⟩

namespace Sees

variable {IsKey IsCert : String → Prop}

theorem complete (sees : i.Sees IsKey IsCert) (sound : i.Sound IsKey now m) : m.isComplete = true := by
  have isCert {cert : String} (lasts : i.Lasts now cert) : cert ≠ "" := by
    obtain ⟨_, read, -⟩ := lasts
    exact fun empty => sees.noCert (empty ▸ sees.expiry read)
  have caKey : m.caKey ≠ "" := fun empty => sees.noKey (empty ▸ sound.caKey)
  simp [Material.isComplete, isCert sound.caLasts, caKey, isCert sound.tlsLasts, sound.tlsKey]

theorem faultBy_eq_none_iff (sees : i.Sees IsKey IsCert) : m.faultBy i now = none ↔ i.Sound IsKey now m := by
  constructor
  · intro none
    rw [Material.faultBy] at none
    split at none
    · cases none
    rename_i complete
    split at none
    · cases none
    rename_i load
    split at none
    · cases none
    · cases none
    rename_i signed
    have lasting : i.lifetimeFault now .authority m.caCert = Option.none ∧
        i.lifetimeFault now .serving m.tlsCert = Option.none := by simpa using none
    simp only [Material.isComplete, Bool.not_eq_true', Bool.not_eq_false, Bool.and_eq_true, bne_iff_ne] at complete
    exact ⟨(sees.load.mp load).1, complete.2, signed, lifetimeFault_eq_none_iff.mp lasting.1,
      lifetimeFault_eq_none_iff.mp lasting.2⟩
  · intro sound
    obtain ⟨_, read, -⟩ := sound.caLasts
    have load := sees.load.mpr ⟨sound.caKey, sees.expiry read⟩
    rw [faultBy_of_signed now (sees.complete sound) load sound.signed, lifetimeFault_eq_none_iff.mpr sound.caLasts,
      lifetimeFault_eq_none_iff.mpr sound.tlsLasts]
    rfl

/-- Whatever belonging to a certificate means for a key, it makes the difference between material that is usable and
material that is kept. Of the inspection no more is assumed than what it takes for keys and certificates. -/
theorem usable_iff (sees : i.Sees IsKey IsCert) {Owns : (key cert : String) → Prop}
    (owned : ∀ key cert, Owns key cert → IsKey key) :
    (i.Usable Owns now m ↔ m.faultBy i now = none ∧ Owns m.caKey m.caCert ∧ Owns m.tlsKey m.tlsCert) ∧
    (m.faultBy i now = none ↔ i.Sound IsKey now m) ∧
    (m.faultBy i now = none → ∀ caKey tlsKey, { m with caKey, tlsKey }.faultBy i now = none ↔
      IsKey caKey ∧ tlsKey ≠ "") := by
  refine ⟨⟨fun usable => ?_, ?_⟩, sees.faultBy_eq_none_iff, ?_⟩
  · have tlsKey : m.tlsKey ≠ "" := fun empty => sees.noKey (empty ▸ owned _ _ usable.tlsKey)
    have sound : i.Sound IsKey now m :=
      ⟨owned _ _ usable.caKey, tlsKey, usable.signed, usable.caLasts, usable.tlsLasts⟩
    exact ⟨sees.faultBy_eq_none_iff.mpr sound, usable.caKey, usable.tlsKey⟩
  · rintro ⟨kept, caKey, tlsKey⟩
    have sound := sees.faultBy_eq_none_iff.mp kept
    exact ⟨caKey, tlsKey, sound.signed, sound.caLasts, sound.tlsLasts⟩
  · intro kept caKey tlsKey
    rw [sees.faultBy_eq_none_iff]
    exact (sees.faultBy_eq_none_iff.mp kept).with_keys_iff caKey tlsKey

end Sees

/-- What the standard inspection takes for a key is read as one; of a certificate it asks for no more than PEM. -/
theorem standard_sees :
    standard.Sees (fun key => (PrivateKey.ofText? key).isSome) (fun cert => (Pem.parse? cert).isSome) where
  load := by
    intro cert key
    change (Authority.load cert key).map (fun _ => ()) = .ok () ↔ _
    rw [Authority.load]
    cases PrivateKey.ofText? key with
    | none => simp [Except.map]
    | some k => cases Pem.parse? cert <;> simp [Except.map]
  expiry := by
    intro cert expiry read
    change (X509.ofText .certificate cert).map X509.notAfter = .ok expiry at read
    rw [X509.ofText] at read
    cases parsed : Pem.parse? cert with
    | none => rw [parsed] at read; cases read
    | some block => rfl
  noKey := by decide
  noCert := by decide

end Inspection

/-- The private key of a certificate. -/
def Owns (key cert : String) : Prop :=
  ∃ k c, PrivateKey.ofText? key = some k ∧ X509.ofText .certificate cert = .ok c ∧ k.publicKey = c.publicKey

namespace Material

/-- What is looked at in fact before material is kept. -/
def Sound (now : Int) (m : Material) : Prop :=
  Inspection.standard.Sound (fun key => (PrivateKey.ofText? key).isSome) now m

/-- Material whose keys are those of its certificates, besides all that is looked at. -/
def Usable (now : Int) (m : Material) : Prop := Inspection.standard.Usable Owns now m

/-- Material is usable if it is kept and both keys belong to their certificates. That is not looked at: what is kept with
one pair of keys is kept with any readable key of the authority and any text for that of the server. -/
theorem usable_iff_kept_and_owned (now : Int) (m : Material) :
    (m.Usable now ↔ m.fault now = none ∧ Owns m.caKey m.caCert ∧ Owns m.tlsKey m.tlsCert) ∧
    (m.fault now = none ↔ m.Sound now) ∧
    (m.fault now = none → ∀ caKey tlsKey, { m with caKey, tlsKey }.fault now = none ↔
      (PrivateKey.ofText? caKey).isSome ∧ tlsKey ≠ "") := by
  refine Inspection.standard_sees.usable_iff fun key cert owns => ?_
  obtain ⟨k, -, read, -⟩ := owns
  rw [read, Option.isSome_some]

end Material

theorem X509.ofText_certificateText (part : Part) {bytes : List UInt8} {c : X509} (read : X509.ofBytes? bytes = some c) :
    X509.ofText part (certificateText bytes) = .ok c := by
  have block : Pem.parse? (certificateText bytes) = some { label := certificateLabel, contents := bytes } :=
    Pem.parse?_text ⟨(by decide : certificateLabel ≠ ""), (by decide : '-' ∉ certificateLabel.toList)⟩
  simp only [ofText, block, read]

namespace Inspection

variable {bytes : List UInt8} {c : X509}

theorem standard_expiry (read : X509.ofBytes? bytes = some c) :
    standard.expiry (certificateText bytes) = .ok c.notAfter := by
  change (X509.ofText .certificate (certificateText bytes)).map X509.notAfter = _
  rw [X509.ofText_certificateText _ read]
  rfl

theorem standard_isSignedBy (read : X509.ofBytes? bytes = some c) :
    standard.isSignedBy (certificateText bytes) (certificateText bytes) = .ok (c.isSignedBy c) := by
  change (X509.ofText .certificate (certificateText bytes) >>= fun certificate =>
    X509.ofText .caCertificate (certificateText bytes) >>= fun authority =>
      pure (certificate.isSignedBy authority)) = _
  rw [X509.ofText_certificateText _ read, X509.ofText_certificateText _ read]
  rfl

end Inspection

section SoleKey

def soleKey : PrivateKey := .ed25519 (List.replicate 32 1)

def soleKeyBytes : List UInt8 :=
  Der.sequence
    [Der.integer 0, PrivateKey.ed25519Algorithm.bytes, Der.octetString (Der.octetString (List.replicate 32 1))]

/-- A certificate that its own key has signed. -/
def soleCertificate (issued : Int) : List UInt8 :=
  Draft.sign { commonName := "", isAuthority := true } (Draft.nameBytes "") soleKey soleKey.publicKey issued

/-- Material of one key, with one certificate for the authority and the server. -/
def soleMaterial (issued : Int) : Material where
  caCert := certificateText (soleCertificate issued)
  caKey := Pem.text { label := keyLabel, contents := soleKeyBytes }
  tlsCert := certificateText (soleCertificate issued)
  tlsKey := Pem.text { label := keyLabel, contents := soleKeyBytes }

theorem isSome_soleKeyBytes : (PrivateKey.ofBytes? soleKeyBytes).isSome := by
  decide +kernel

theorem isSome_soleKey : (PrivateKey.ofText? (Pem.text { label := keyLabel, contents := soleKeyBytes })).isSome := by
  rw [PrivateKey.ofText?, Pem.parse?_text ⟨by decide, by decide⟩]
  exact isSome_soleKeyBytes

/-- Such material expires with its certificate, and nothing else is wrong with it. That the certificate is signed and
when it expires is for an evaluation to tell. -/
theorem fault_soleMaterial {issued expiry : Int} (checked : ((X509.ofBytes? (soleCertificate issued)).any fun c =>
    c.isSignedBy c && decide (c.notAfter = expiry)) = true) (now : Int) : (soleMaterial issued).fault now =
      if expiry - now < renewalDays * 86400 then some (.expiring .authority) else none := by
  cases read : X509.ofBytes? (soleCertificate issued) with
  | none => simp [read] at checked
  | some c =>
    rw [read, Option.any_some, Bool.and_eq_true, decide_eq_true_eq] at checked
    obtain ⟨signed, rfl⟩ := checked
    have parsed := Inspection.standard_expiry read
    have isCert := Inspection.standard_sees.expiry parsed
    have load := Inspection.standard_sees.load.mpr ⟨isSome_soleKey, isCert⟩
    have complete : (soleMaterial issued).isComplete = true := by
      have key : (soleMaterial issued).caKey ≠ "" := fun empty =>
        Inspection.standard_sees.noKey (empty ▸ isSome_soleKey)
      have cert : (soleMaterial issued).caCert ≠ "" := fun empty => Inspection.standard_sees.noCert (empty ▸ isCert)
      simp only [Material.isComplete, Bool.and_eq_true, bne_iff_ne]
      exact ⟨⟨⟨cert, key⟩, cert⟩, key⟩
    have signs := (Inspection.standard_isSignedBy read).trans (congrArg Except.ok signed)
    rw [Material.fault, Inspection.faultBy_of_signed now complete load signs, soleMaterial,
      Inspection.lifetimeFault_of_expiry now parsed, Inspection.lifetimeFault_of_expiry now parsed]
    split <;> rfl

theorem any_soleCertificate : ((X509.ofBytes? (soleCertificate 1700000000)).any fun c =>
    c.isSignedBy c && decide (c.notAfter = 1763072000)) = true := by
  decide +kernel

/-- Material with a text for the key of the server that is none. -/
def keyless : Material := { soleMaterial 1700000000 with tlsKey := "anything" }

theorem fault_keyless : keyless.fault 1700000000 = none := by
  have kept : (soleMaterial 1700000000).fault 1700000000 = none :=
    (fault_soleMaterial any_soleCertificate 1700000000).trans (by decide)
  have sound := Inspection.standard_sees.faultBy_eq_none_iff.mp kept
  refine Inspection.standard_sees.faultBy_eq_none_iff.mpr ?_
  exact (sound.with_keys_iff _ _).mpr ⟨sound.caKey, by decide⟩

/-- The material is kept, and no server can use it. -/
theorem keyless_kept : keyless.fault 1700000000 = none ∧ ¬ keyless.Usable 1700000000 := by
  obtain ⟨usable, -, -⟩ := keyless.usable_iff_kept_and_owned 1700000000
  refine ⟨fault_keyless, fun is => ?_⟩
  obtain ⟨-, -, k, -, read, -⟩ := usable.mp is
  have unread : PrivateKey.ofText? keyless.tlsKey = none := by decide
  rw [unread] at read
  cases read

end SoleKey

end Graft.Certificate
