import Graft.Certificate.Draft

namespace Graft.Certificate

/-- The label of certificates in PEM. -/
def certificateLabel : String := "CERTIFICATE"

def keyLabel : String := "PRIVATE KEY"

def certificateText (bytes : List UInt8) : String := Pem.text { label := certificateLabel, contents := bytes }

/-- An authority as it is kept: a key of its own and a certificate for it that it signed itself, both in PEM. Nothing
here says that the two belong together. -/
structure Authority where
  cert : String
  key : String
deriving DecidableEq, Repr

/-- A new key with its text; a number picks it. -/
def newKey (choice : Nat) : PrivateKey × String :=
  let secret := 1 + choice % (Signature.Ecdsa.Named.p256.curve.order - 1)
  (.ecdsa .p256 secret, Pem.text { label := keyLabel, contents := PrivateKey.ecdsaBytes .p256 secret })

namespace Authority

/-- A new authority, made at a time with the key that a number picks. -/
def create (commonName : String) (choice : Nat) (now : Int) : Authority :=
  let (key, text) := newKey choice
  let draft : Draft := { commonName, isAuthority := true }
  { cert := certificateText (draft.sign (Draft.nameBytes commonName) key key.publicKey now), key := text }

/-- Takes over a stored authority. The key is read; the certificate need only be PEM, and need not belong to
the key. -/
def load (cert key : String) : Except Error Authority :=
  match PrivateKey.ofText? key, Pem.parse? cert with
  | none, _ => .error (.unreadable .caKey)
  | _, none => .error (.unreadable .pem)
  | some _, some _ => .ok { cert, key }

def certificate (a : Authority) : Except Error X509 := X509.ofText .certificate a.cert

/-- A name that a certificate can hold. -/
def isPlain (name : String) : Bool := name.toList.all fun c => c.toNat < 128

/-- Certifies a new key for a server with names; the first of them is its common name. Returns the certificate
and the key. -/
def issue (a : Authority) (names : List String) (choice : Nat) (now : Int) : Except Error (String × String) :=
  match names.find? fun name => !isPlain name with
  | some name => .error (.invalidName name)
  | none =>
    match PrivateKey.ofText? a.key with
    | none => .error (.unreadable .storedCaKey)
    | some issuerKey =>
      match X509.ofText .issuer a.cert with
      | .error _ => .error (.unreadable .issuer)
      | .ok issuer =>
        let (key, text) := newKey choice
        let draft : Draft := { commonName := names.headD "", names, isAuthority := false }
        .ok (certificateText (draft.sign issuer.subjectBytes issuerKey key.publicKey now), text)

end Authority

end Graft.Certificate
