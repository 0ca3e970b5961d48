namespace Graft.Certificate

/-- What could not be read. -/
inductive Part where
  | pem
  | certificate
  | caCertificate
  | caKey
  | storedCaKey
  | issuer
deriving DecidableEq, Repr

/-- How work on keys and certificates fails. -/
inductive Error where
  /-- A name of the server has characters that a certificate cannot hold. -/
  | invalidName (name : String)
  | unreadable (part : Part)
deriving DecidableEq, Repr

def Part.complaint : Part → String
  | pem => "failed to parse PEM:"
  | certificate => "failed to parse certificate:"
  | caCertificate => "failed to parse CA cert:"
  | caKey => "failed to parse CA key:"
  | storedCaKey => "failed to load CA key:"
  | issuer => "failed to create issuer:"

def Error.message : Error → String
  | invalidName name =>
    "certificate generation failed: invalid DNS name '" ++ name ++ "': Invalid IA5String: '" ++ name ++ "'"
  | unreadable part => "certificate parsing error: " ++ part.complaint

end Graft.Certificate
