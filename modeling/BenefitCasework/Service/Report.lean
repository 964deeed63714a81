import BenefitCasework.Envelope.Plain
import BenefitCasework.Service.World

/-!
Contract: what the service reports about itself.

Owns:
- `Tally.report`, the counts by name;
- `PassReport.report`, the counts of a finished pass;
- `World.deliveryReport`, what went out and what waits;
- `World.noticeReport`, the projection with the notices handed over;
- `AuditEntry.summary`, an audit entry in a few words.

Does not own: the counting.
-/

namespace BenefitCasework

def Tally.report (tally : Tally) : Json :=
  .object (tally.entries.map fun (metric, count) => (metric.text, .integer count))

def PassReport.report : PassReport → Json
  | .drained counts =>
      .object [("published", .integer counts.published), ("dead_lettered", .integer counts.parked),
        ("held", .integer counts.held), ("unserializable", .integer counts.unwritable),
        ("stalled", .boolean counts.stalled)]
  | .replayed counts =>
      .object [("replayed", .integer counts.replayed), ("released", .integer counts.released),
        ("still_parked", .integer counts.stillParked)]

def AuditEntry.summary (entry : AuditEntry) : Json :=
  .object [("id", Json.of entry.id), ("sequence", Json.of entry.sequence),
    ("action", .string entry.action), ("previous_hash", Json.of entry.previousHash),
    ("seal", Json.of entry.sealedBy), ("changes", Json.of entry.changes.names)]

def Envelope.summary (topic : String) (envelope : Envelope) : Json :=
  .array [.string topic, .string envelope.kind, .string envelope.stream, Json.of envelope.sequence]

def Letter.summary (letter : Letter) : Json :=
  .array [.string letter.payload.stream, Json.of letter.payload.sequence, Json.of letter.attempts,
    .string letter.lastError]

namespace World

def deliveryReport (world : World) : Json :=
  .object [("published", .array (world.bus.accepted.map fun (topic, envelope) =>
      envelope.summary topic)),
    ("dead_letters", .array (world.relay.letters.letters.map Letter.summary)),
    ("held", .integer world.relay.heldCount), ("outbox", .integer world.relay.outbox.length)]

def noticeReport (world : World) : Json :=
  .object (world.notices.state.fields ++ [("sent", Json.of world.notices.surroundings.sent)])

def envelopeReport (world : World) : Json :=
  .array (world.bus.accepted.map fun (_, envelope) => .object envelope.plainFields)

end World

end BenefitCasework
