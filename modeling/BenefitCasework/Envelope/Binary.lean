import BenefitCasework.Request.Event
import BenefitCasework.Text.Utf8

/-!
Contract: the bytes in which announcements travel.

Owns:
- `BinaryForm`, the bytes of a type and a reader that also returns the bytes it
  left behind;
- the bytes of words, texts, lists, options, identifiers and days;
- the bytes of `EventPayload`, the number of its kind first.

Words stand with their lowest byte first, in four or eight bytes. A text and a
list follow their length in eight bytes, the names of finite types are their
place in four bytes. Does not own: what surrounds an announcement.
-/

namespace BenefitCasework

/-- The bytes of a type and their reader. -/
class BinaryForm (α : Type) where
  /-- The bytes that are written. -/
  write : α → List UInt8
  /-- What stands in front of some bytes, and the bytes behind it. -/
  read? : List UInt8 → Option (α × List UInt8)

namespace Binary

def bytesOf {α : Type} [BinaryForm α] (content : α) : List UInt8 := BinaryForm.write content

def read? (α : Type) [BinaryForm α] (bytes : List UInt8) : Option (α × List UInt8) :=
  BinaryForm.read? bytes

/-- The lowest `count` bytes of a number, the lowest first. -/
def lowBytes : Nat → Nat → List UInt8
  | 0, _ => []
  | count + 1, value => UInt8.ofNat value :: lowBytes count (value / 256)

def readLow : Nat → List UInt8 → Option (Nat × List UInt8)
  | 0, bytes => some (0, bytes)
  | _ + 1, [] => none
  | count + 1, byte :: rest =>
      match readLow count rest with
      | some (high, behind) => some (byte.toNat + 256 * high, behind)
      | none => none

def readBytes (count : Nat) (bytes : List UInt8) : Option (List UInt8 × List UInt8) :=
  if count ≤ bytes.length then some (bytes.take count, bytes.drop count) else none

def sized (bytes : List UInt8) : List UInt8 := lowBytes 8 bytes.length ++ bytes

def readSized (bytes : List UInt8) : Option (List UInt8 × List UInt8) := do
  let (count, rest) ← readLow 8 bytes
  readBytes count rest

def readMany (α : Type) [BinaryForm α] : Nat → List UInt8 → Option (List α × List UInt8)
  | 0, bytes => some ([], bytes)
  | count + 1, bytes => do
      let (item, rest) ← BinaryForm.read? bytes
      let (items, behind) ← readMany α count rest
      return (item :: items, behind)

def place {α : Type} [DecidableEq α] (all : List α) (value : α) : List UInt8 :=
  lowBytes 4 (all.idxOf value)

def readPlace {α : Type} (all : List α) (bytes : List UInt8) : Option (α × List UInt8) := do
  let (number, rest) ← readLow 4 bytes
  let value ← all[number]?
  return (value, rest)

end Binary

instance : BinaryForm UInt32 where
  write value := Binary.lowBytes 4 value.toNat
  read? bytes := do
    let (value, rest) ← Binary.readLow 4 bytes
    return (UInt32.ofNat value, rest)

instance : BinaryForm UInt64 where
  write value := Binary.lowBytes 8 value.toNat
  read? bytes := do
    let (value, rest) ← Binary.readLow 8 bytes
    return (UInt64.ofNat value, rest)

instance : BinaryForm String where
  write text := Binary.sized (Text.utf8 text)
  read? bytes := do
    let (content, rest) ← Binary.readSized bytes
    let text ← Text.ofUtf8? content
    return (text, rest)

instance {α : Type} [BinaryForm α] : BinaryForm (List α) where
  write items := Binary.lowBytes 8 items.length ++ items.flatMap Binary.bytesOf
  read? bytes := do
    let (count, rest) ← Binary.readLow 8 bytes
    Binary.readMany α count rest

instance {α : Type} [BinaryForm α] : BinaryForm (Option α) where
  write
    | none => [0]
    | some content => 1 :: Binary.bytesOf content
  read?
    | 0 :: rest => some (none, rest)
    | 1 :: rest => do
        let (content, behind) ← Binary.read? α rest
        return (some content, behind)
    | _ => none

instance : BinaryForm Identifier where
  write identifier := Binary.sized identifier.toBytes
  read? bytes := do
    let (content, rest) ← Binary.readSized bytes
    let identifier ← Identifier.ofBytes? content
    return (identifier, rest)

instance : BinaryForm Date where
  write date := Binary.bytesOf date.text
  read? bytes := do
    let (text, rest) ← Binary.read? String bytes
    let date ← Date.parse? text
    return (date, rest)

instance : BinaryForm Kinship where
  write := Binary.place Kinship.all
  read? := Binary.readPlace Kinship.all

instance : BinaryForm Origin where
  write := Binary.place Origin.all
  read? := Binary.readPlace Origin.all

instance : BinaryForm Status where
  write := Binary.place Status.all
  read? := Binary.readPlace Status.all

instance : BinaryForm PaymentMethod where
  write := Binary.place PaymentMethod.all
  read? := Binary.readPlace PaymentMethod.all

instance : BinaryForm Beneficiary where
  write beneficiary := Binary.bytesOf beneficiary.citizen ++ Binary.bytesOf beneficiary.name ++
    Binary.bytesOf beneficiary.birthDate
  read? bytes := do
    let (citizen, bytes) ← Binary.read? Identifier bytes
    let (name, bytes) ← Binary.read? String bytes
    let (birthDate, bytes) ← Binary.read? Date bytes
    return (⟨citizen, name, birthDate⟩, bytes)

instance : BinaryForm Requester where
  write requester := Binary.bytesOf requester.citizen ++ Binary.bytesOf requester.kinship
  read? bytes := do
    let (citizen, bytes) ← Binary.read? Identifier bytes
    let (kinship, bytes) ← Binary.read? (Option Kinship) bytes
    return (⟨citizen, kinship⟩, bytes)

instance : BinaryForm Payment where
  write payment := Binary.bytesOf payment.cents ++ Binary.bytesOf payment.method ++
    Binary.bytesOf payment.reference
  read? bytes := do
    let (cents, bytes) ← Binary.read? UInt64 bytes
    let (method, bytes) ← Binary.read? PaymentMethod bytes
    let (reference, bytes) ← Binary.read? (Option String) bytes
    return (⟨cents, method, reference⟩, bytes)

instance : BinaryForm PaymentChannel where
  write
    | .pix key => Binary.lowBytes 4 0 ++ Binary.bytesOf key
    | .bankAccount bank branch account =>
        Binary.lowBytes 4 1 ++ Binary.bytesOf bank ++ Binary.bytesOf branch ++
          Binary.bytesOf account
  read? bytes := do
    let (number, bytes) ← Binary.readLow 4 bytes
    if number = 0 then
      let (key, bytes) ← Binary.read? String bytes
      return (.pix key, bytes)
    else if number = 1 then
      let (bank, bytes) ← Binary.read? String bytes
      let (branch, bytes) ← Binary.read? String bytes
      let (account, bytes) ← Binary.read? String bytes
      return (.bankAccount bank branch account, bytes)
    else none

instance : BinaryForm PendencySummary where
  write summary := Binary.bytesOf summary.id ++ Binary.bytesOf summary.description
  read? bytes := do
    let (id, bytes) ← Binary.read? Identifier bytes
    let (description, bytes) ← Binary.read? String bytes
    return (⟨id, description⟩, bytes)

namespace EventPayload

def kindNumber : EventPayload → Nat
  | .created _ _ _ _ _ => 0
  | .submitted _ => 1
  | .pended _ _ _ => 2
  | .approved _ _ => 3
  | .rejected _ => 4
  | .resubmitted _ => 5
  | .released _ _ => 6
  | .completed _ => 7
  | .cancelled _ _ => 8

/-- The bytes of an announcement behind the number of its kind. -/
def contentBytes : EventPayload → List UInt8
  | .created benefitType beneficiary requester origin routeRevision =>
      Binary.bytesOf benefitType ++ Binary.bytesOf beneficiary ++ Binary.bytesOf requester ++
        Binary.bytesOf origin ++ Binary.bytesOf routeRevision
  | .submitted status => Binary.bytesOf status
  | .pended justification pendencies cycle =>
      Binary.bytesOf justification ++ Binary.bytesOf pendencies ++ Binary.bytesOf cycle
  | .approved user gates => Binary.bytesOf user ++ Binary.bytesOf gates
  | .rejected justification => Binary.bytesOf justification
  | .resubmitted cycle => Binary.bytesOf cycle
  | .released payment channel => Binary.bytesOf payment ++ Binary.bytesOf channel
  | .completed deliveryNote => Binary.bytesOf deliveryNote
  | .cancelled reason source => Binary.bytesOf reason ++ Binary.bytesOf source

def readContent (kind : Nat) (bytes : List UInt8) : Option (EventPayload × List UInt8) := do
  match kind with
  | 0 =>
      let (benefitType, bytes) ← Binary.read? String bytes
      let (beneficiary, bytes) ← Binary.read? Beneficiary bytes
      let (requester, bytes) ← Binary.read? Requester bytes
      let (origin, bytes) ← Binary.read? Origin bytes
      let (routeRevision, bytes) ← Binary.read? UInt32 bytes
      return (.created benefitType beneficiary requester origin routeRevision, bytes)
  | 1 =>
      let (status, bytes) ← Binary.read? Status bytes
      return (.submitted status, bytes)
  | 2 =>
      let (justification, bytes) ← Binary.read? String bytes
      let (pendencies, bytes) ← Binary.read? (List PendencySummary) bytes
      let (cycle, bytes) ← Binary.read? UInt32 bytes
      return (.pended justification pendencies cycle, bytes)
  | 3 =>
      let (user, bytes) ← Binary.read? Identifier bytes
      let (gates, bytes) ← Binary.read? (List String) bytes
      return (.approved user gates, bytes)
  | 4 =>
      let (justification, bytes) ← Binary.read? String bytes
      return (.rejected justification, bytes)
  | 5 =>
      let (cycle, bytes) ← Binary.read? UInt32 bytes
      return (.resubmitted cycle, bytes)
  | 6 =>
      let (payment, bytes) ← Binary.read? Payment bytes
      let (channel, bytes) ← Binary.read? PaymentChannel bytes
      return (.released payment channel, bytes)
  | 7 =>
      let (deliveryNote, bytes) ← Binary.read? String bytes
      return (.completed deliveryNote, bytes)
  | 8 =>
      let (reason, bytes) ← Binary.read? String bytes
      let (source, bytes) ← Binary.read? Status bytes
      return (.cancelled reason source, bytes)
  | _ => none

instance : BinaryForm EventPayload where
  write payload := Binary.lowBytes 4 payload.kindNumber ++ payload.contentBytes
  read? bytes := do
    let (kind, rest) ← Binary.readLow 4 bytes
    readContent kind rest

end EventPayload

namespace Binary

/-- A number that fits is read back. -/
theorem readLow_lowBytes (count : Nat) :
    ∀ (value : Nat) (rest : List UInt8), value < Nat.pow 256 count →
      readLow count (lowBytes count value ++ rest) = some (value, rest) := by
  induction count with
  | zero =>
      intro value rest small
      have nothing : value = 0 := Nat.lt_one_iff.mp small
      simp [lowBytes, readLow, nothing]
  | succ count inductionHypothesis =>
      intro value rest small
      have grown : Nat.pow 256 (count + 1) = Nat.pow 256 count * 256 := rfl
      have high : value / 256 < Nat.pow 256 count := Nat.div_lt_of_lt_mul (by omega)
      simp only [lowBytes, List.cons_append, readLow, inductionHypothesis _ rest high]
      simp only [UInt8.toNat_ofNat', Option.some.injEq, Prod.mk.injEq, and_true]
      omega

/-- Bytes behind their number are read back, whatever follows. -/
theorem readSized_sized (bytes rest : List UInt8) (small : bytes.length < UInt64.size) :
    readSized (sized bytes ++ rest) = some (bytes, rest) := by
  simp [readSized, sized, readLow_lowBytes 8 _ _ small, readBytes]

end Binary

end BenefitCasework
