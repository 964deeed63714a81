import BenefitCasework.Digest.Sha256

/-!
Contract: the keyed digest HMAC over SHA-256.

Owns:
- `Hmac.blockKey`, a key brought to one block of sixty-four bytes;
- `Hmac.authenticate`, the thirty-two bytes that a key gives a message.

Does not own: whether a key may be empty, which the signer decides.
-/

namespace BenefitCasework.Digest.Hmac

/-- A key of one block: longer keys are replaced by their digest, shorter ones
filled up with zeros. -/
def blockKey (key : List UInt8) : List UInt8 :=
  let short := if 64 < key.length then Sha256.digest key else key
  short ++ List.replicate (64 - short.length) 0

def authenticate (key message : List UInt8) : List UInt8 :=
  let block := blockKey key
  let inner := Sha256.digest (block.map (· ^^^ 0x36) ++ message)
  Sha256.digest (block.map (· ^^^ 0x5c) ++ inner)

/-- A keyed digest has thirty-two bytes. -/
theorem length_authenticate (key message : List UInt8) :
    (authenticate key message).length = 32 :=
  Sha256.length_digest _

end BenefitCasework.Digest.Hmac
