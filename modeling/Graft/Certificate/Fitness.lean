import Graft.Certificate.Authority
import Graft.Certificate.Material
import Graft.Certificate.Reconcile

namespace Graft.Certificate

/-- How certificates and keys in PEM are looked at. -/
structure Inspection where
  /-- Whether an authority can be taken over from its certificate and its key. -/
  load : (cert key : String) → Except Error Unit
  /-- Whether the authority of the second certificate signed the first. -/
  isSignedBy : (cert caCert : String) → Except Error Bool
  /-- When a certificate expires, in seconds since the start of 1970. -/
  expiry : (cert : String) → Except Error Int

/-- The inspection by what the texts say. -/
def Inspection.standard : Inspection where
  load cert key := (Authority.load cert key).map fun _ => ()
  isSignedBy := Certificate.isSignedBy
  expiry cert := (X509.ofText .certificate cert).map X509.notAfter

/-- Certificates that expire sooner are replaced. -/
def renewalDays : Int := 90

/-- What is wrong with the lifetime of a certificate. -/
def Inspection.lifetimeFault (i : Inspection) (now : Int) (role : Role) (cert : String) : Option Reason :=
  match i.expiry cert with
  | .error e => some (.unusable role e)
  | .ok expiry => if expiry - now < renewalDays * 86400 then some (.expiring role) else none

namespace Material

/-- Every part is there. -/
def isComplete (m : Material) : Bool := m.caCert != "" && m.caKey != "" && m.tlsCert != "" && m.tlsKey != ""

/-- Why material is not kept at a time; of several reasons the first. -/
def faultBy (i : Inspection) (now : Int) (m : Material) : Option Reason :=
  if !m.isComplete then some .incomplete
  else match i.load m.caCert m.caKey with
    | .error e => some (.unusableAuthority e)
    | .ok () => match i.isSignedBy m.tlsCert m.caCert with
      | .error e => some (.unusableSignature e)
      | .ok false => some .notSigned
      | .ok true =>
        (i.lifetimeFault now .authority m.caCert).orElse fun _ => i.lifetimeFault now .serving m.tlsCert

def fault (now : Int) (m : Material) : Option Reason := faultBy .standard now m

/-- The common name of a new authority. -/
def authorityName : String := "applicationinsights-ca"

/-- The name under which the API server reaches the webhook. -/
def serverName : String := "app-monitoring-webhook-service.kube-system.svc"

/-- New material, made at a time with the keys that two numbers pick. -/
def generate (caChoice tlsChoice : Nat) (now : Int) : Except Error Material := do
  let authority := Authority.create authorityName caChoice now
  let (tlsCert, tlsKey) ← authority.issue [serverName] tlsChoice now
  return { caCert := authority.cert, caKey := authority.key, tlsCert, tlsKey }

end Material

end Graft.Certificate
