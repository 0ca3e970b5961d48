import Graft.ObjectMeta
import Graft.Text.Base64
import Graft.Text.Utf8

namespace Graft.Certificate

open Json

/-- A certificate authority and what it certifies, each part as PEM text. An empty part is missing. -/
structure Material where
  caCert : String := ""
  caKey : String := ""
  tlsCert : String := ""
  tlsKey : String := ""
deriving DecidableEq, Repr, Inhabited

/-- Bytes written in base64. -/
def readBytes : Reader (List UInt8) := fun d => do
  match Text.Base64.decode? (← Reader.string d).toList with
  | some bytes => .ok bytes
  | none => .error .misfit

def bytesJson (bytes : List UInt8) : Json := .str (String.ofList (Text.Base64.encode bytes))

/-- The part of a Secret that counts: its data. -/
structure Secret where
  data : Option (Keyed (List UInt8)) := none
deriving DecidableEq, Repr, Inhabited

namespace Secret

/-- Where the material is kept. -/
def ns : String := "kube-system"

def name : String := "app-monitoring-webhook-cert"

def read : Reader Secret := fun d => do
  let text := Reader.check (Reader.optional Reader.string)
  let r ← Record.readLenient [("apiVersion", Reader.constant "v1"),
    ("data", Reader.check (Reader.optional (Reader.map readBytes))),
    ("immutable", Reader.check (Reader.optional Reader.bool)), ("kind", Reader.constant "Secret"),
    ("metadata", Reader.check (Reader.optional ObjectMeta.read)),
    ("stringData", Reader.check (Reader.optional (Reader.map Reader.string))), ("type", text)] d
  return { data := ← r.optional "data" (Reader.map readBytes) }

def ofJson? (j : Json) : Option Secret := (read j.draft).toOption

/-- The whole Secret as it is written. -/
def toJson (s : Secret) : Json := ofFields [
  ("apiVersion", some (.str "v1")),
  ("data", s.data.map fun entries => .obj (entries.map fun e => (e.1, bytesJson e.2))),
  ("kind", some (.str "Secret")),
  ("metadata", some (.obj [("name", .str name), ("namespace", .str ns)])),
  ("type", some (.str "Opaque"))]

/-- The text of an entry; empty if it is missing or not text. -/
def text (s : Secret) (key : String) : String :=
  (((s.data.bind (Keyed.get? key)).bind Text.Utf8.decode?)).getD ""

end Secret

namespace Material

def ofSecret (s : Secret) : Material where
  caCert := s.text "ca.cert"
  caKey := s.text "ca.key"
  tlsCert := s.text "tls.cert"
  tlsKey := s.text "tls.key"

def toSecret (m : Material) : Secret where
  data := some [("ca.cert", Text.Utf8.encode m.caCert), ("ca.key", Text.Utf8.encode m.caKey),
    ("tls.cert", Text.Utf8.encode m.tlsCert), ("tls.key", Text.Utf8.encode m.tlsKey)]

end Material

end Graft.Certificate
