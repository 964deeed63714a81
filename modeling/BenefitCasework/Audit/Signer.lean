import BenefitCasework.Digest.Hmac
import BenefitCasework.Json.Record
import BenefitCasework.Text.Base64
import BenefitCasework.Text.Quoted
import BenefitCasework.Text.Utf8

/-!
Contract: signing with a secret key.

Owns:
- `Signer`, a key with its name, or the name alone while the key is out of
  reach;
- `Signer.sign` and `Signer.verify`;
- `SigningError`, why nothing can be signed.

A signature is the keyed digest in the standard base-64 alphabet. Text that is
no base-64 is no signature, whatever the key. Does not own: what is signed.
-/

namespace BenefitCasework

/-- Why nothing can be signed. -/
inductive SigningError where
  | missingKey
  | invalidKey (reason : String)
  | unavailable (reason : String)
deriving DecidableEq, Repr

def SigningError.message : SigningError → String
  | .missingKey => "no signing key configured"
  | .invalidKey reason => "invalid signing key: " ++ reason
  | .unavailable reason => "signer unavailable: " ++ reason

/-- A key with its name. Without a key the signer is out of reach. -/
structure Signer where
  keyId : String
  key : Option (List UInt8)
deriving DecidableEq, Repr

namespace Signer

/-- The key in use; an empty one counts as missing. -/
def usableKey (signer : Signer) : Except SigningError (List UInt8) :=
  match signer.key with
  | none => .error (.unavailable "the key is out of reach")
  | some [] => .error .missingKey
  | some key => .ok key

def sign (signer : Signer) (bytes : List UInt8) : Except SigningError String :=
  match signer.usableKey with
  | .ok key => .ok (Text.Base64.encodeText (Digest.Hmac.authenticate key bytes))
  | .error reason => .error reason

def verify (signer : Signer) (bytes : List UInt8) (signature : String) :
    Except SigningError Bool :=
  match Text.Base64.decode signature.toList with
  | none => .ok false
  | some tag =>
      match signer.usableKey with
      | .ok key => .ok (decide (Digest.Hmac.authenticate key bytes = tag))
      | .error reason => .error reason

/-- The signer that a record tells, with stand-ins for the name of the key and
for the key; `false` in place of a key puts the key out of reach. -/
def ofRecord? (standardKeyId standardKey : String) (record : Json) : Option Signer := do
  let keyId ← record.getOr standardKeyId "key_id"
  match record.get "signing_key" with
  | .boolean false => return ⟨keyId, none⟩
  | .null => return ⟨keyId, some (Text.utf8 standardKey)⟩
  | .string key => return ⟨keyId, some (Text.utf8 key)⟩
  | _ => none

def text (signer : Signer) : String :=
  "HmacAuditSigner \x7b key_id: " ++ Text.quoted signer.keyId ++ ", key: \"<redacted>\" \x7d"

end Signer

end BenefitCasework
