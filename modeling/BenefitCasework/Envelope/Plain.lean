import BenefitCasework.Envelope
import BenefitCasework.Json.Record

/-!
Contract: an envelope for people to look at.

Owns:
- `Envelope.plainFields`, the fields of an envelope with its bytes in
  hexadecimal digits, and `Envelope.ofPlain?`, which reads them.

Does not own: the written form with the bytes as numbers.
-/

namespace BenefitCasework.Envelope

/-- The fields of an envelope, its bytes in hexadecimal digits. -/
def plainFields (envelope : Envelope) : JsonFields :=
  [("event_type", .string envelope.kind), ("aggregate_id", .string envelope.stream),
    ("sequence", Json.of envelope.sequence),
    ("data", .string (String.ofList (Text.hexOfBytes envelope.data))),
    ("metadata", Json.of envelope.mark)]

def ofPlain? (record : Json) : Option Envelope := do
  return ⟨← record.getText "event_type", ← record.getText "aggregate_id",
    ← record.getAs UInt64 "sequence", ← record.getBytes "data",
    ← record.getAs EnvelopeMark "metadata"⟩

end BenefitCasework.Envelope
