import Graft.Certificate.Material
import Graft.Dialogue
import Graft.Error

namespace Graft.Certificate

/-- Which of the two certificates is meant. -/
inductive Role where
  | authority
  | serving
deriving DecidableEq, Repr

def Role.name : Role → String
  | authority => "CA"
  | serving => "serving"

/-- Why stored material is not kept. -/
inductive Reason where
  | noSecret
  | incomplete
  | unusableAuthority (e : Error)
  | unusableSignature (e : Error)
  | notSigned
  | expiring (role : Role)
  | unusable (role : Role) (e : Error)
  | untrusted
deriving DecidableEq, Repr

def Reason.message : Reason → String
  | noSecret => "certificate secret missing"
  | incomplete => "certificate material missing"
  | unusableAuthority e => "CA unusable: " ++ e.message
  | unusableSignature e => "serving certificate unusable: " ++ e.message
  | notSigned => "serving certificate not signed by CA"
  | expiring role => role.name ++ " certificate close to expiry"
  | unusable role e => role.name ++ " certificate unusable: " ++ e.message
  | untrusted => "webhook CA bundle does not match stored CA"

/-- What the job needs: the stored material, the bundle that the API server trusts, and a way to restart the
server. -/
inductive Call where
  | readMaterial
  | readBundle
  | writeMaterial (m : Material)
  | writeBundle (caCert : String)
  | restart
deriving DecidableEq, Repr

abbrev Reply : Call → Type
  | .readMaterial => Except Graft.Error (Option Material)
  | .readBundle => Except Graft.Error (Option String)
  | .writeMaterial _ => Except Graft.Error Unit
  | .writeBundle _ => Except Graft.Error Unit
  | .restart => Except Graft.Error Unit

/-- What a pass did. -/
inductive Outcome where
  | upToDate
  | regenerated (reason : Reason)
deriving DecidableEq, Repr

/-- What is wrong with stored material and the bundle that is trusted, given what is wrong with material by
itself. -/
def faultOf (unfit : Material → Option Reason) (stored : Option Material) (bundle : Option String) :
    Option Reason :=
  match stored with
  | none => some .noSecret
  | some m => (unfit m).orElse fun _ => if bundle = some m.caCert then none else some .untrusted

/-- Rolls new material out: first the Secret, then the bundle by which the API server trusts it, then a restart of the
server. A step that fails ends the pass. -/
def rollOut (m : Material) (reason : Reason) : Dialogue Call Reply (Except Graft.Error Outcome) :=
  .ask (.writeMaterial m) fun
    | .error e => .note (.count .failedSecretWrites) (.done (.error e))
    | .ok () => .note (.count .secretWrites) (.ask (.writeBundle m.caCert) fun
      | .error e => .done (.error e)
      | .ok () => .note (.count .webhookUpdates) (.ask .restart fun
        | .error e => .done (.error e)
        | .ok () => .done (.ok (.regenerated reason))))

/-- One pass. It reads what is stored, and only if there is a reason not to keep it does it write anything. `unfit`
tells why material is not kept, and `fresh` is what takes its place. -/
def reconcile (unfit : Material → Option Reason) (fresh : Except Error Material) :
    Dialogue Call Reply (Except Graft.Error Outcome) :=
  .ask .readMaterial fun
    | .error e => .done (.error e)
    | .ok stored => .ask .readBundle fun
      | .error e => .done (.error e)
      | .ok bundle =>
        match faultOf unfit stored bundle with
        | none => .done (.ok .upToDate)
        | some reason =>
          match fresh with
          | .error e => .done (.error (.certificate e))
          | .ok m => rollOut m reason

end Graft.Certificate
