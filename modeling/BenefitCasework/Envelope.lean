import BenefitCasework.Envelope.Binary

/-!
Contract: an announcement as it travels.

Owns:
- `Envelope`, the bytes of an announcement with all that is needed to send it
  on, put it in order and recognise it without reading the bytes;
- `Event.envelope`, the envelope of an announcement, and `Event.serialize`, which
  could refuse to write it;
- `Envelope.payload?` and `Envelope.event?`, which read it back;
- `EnvelopeError`, why an envelope cannot be written or read.

Bytes behind an announcement are ignored. Does not own: topics and delivery.
-/

namespace BenefitCasework

/-- What identifies an envelope, ties it to a call, and dates it. -/
structure EnvelopeMark where
  event : Identifier
  correlation : Option Identifier
  moment : Instant
deriving DecidableEq

instance : JsonForm EnvelopeMark where
  write mark := .object [("event_id", Json.of mark.event),
    ("correlation_id", Json.of mark.correlation), ("occurred_at", Json.of mark.moment)]
  read? value := do
    match ← Json.slots? ["event_id", "correlation_id", "occurred_at"] value with
    | [event, correlation, moment] =>
        return ⟨← Json.required event, ← Json.optional correlation, ← Json.required moment⟩
    | _ => none

/-- An announcement as it travels. -/
structure Envelope where
  kind : String
  stream : String
  sequence : UInt64
  data : List UInt8
  mark : EnvelopeMark
deriving DecidableEq

/-- Why an envelope cannot be written or read. -/
inductive EnvelopeError where
  | unwritable (reason : String)
  | malformed (reason : String)
  | foreignStream (stream : String)
  | kindMismatch (envelope payload : String)
deriving DecidableEq, Repr

def EnvelopeError.message : EnvelopeError → String
  | .unwritable reason => "Failed to serialize event: " ++ reason
  | .malformed reason => "Failed to deserialize event: " ++ reason
  | .foreignStream stream => "Failed to deserialize event: not a request stream: " ++ stream
  | .kindMismatch envelope payload =>
      "Event type mismatch: envelope says " ++ envelope ++ ", payload is " ++ payload

/-- What the streams of requests have in front of the identifier. -/
def streamLabel : List Char := "request-".toList

def requestStream (request : Identifier) : String :=
  String.ofList (streamLabel ++ request.characters)

def requestOfStream? (stream : String) : Option Identifier :=
  let characters := stream.toList
  if streamLabel.isPrefixOf characters then
    Identifier.ofCharacters? (characters.drop streamLabel.length)
  else none

def Event.envelope (event : Event) : Envelope :=
  { kind := event.payload.kind
    stream := requestStream event.request
    sequence := event.sequence
    data := Binary.bytesOf event.payload
    mark := ⟨event.id, some event.correlation, event.moment⟩ }

/-- The envelope of an announcement, or why it cannot be written. The bytes go into
memory, and the length of everything is known before its bytes. -/
def Event.serialize (event : Event) : Except EnvelopeError Envelope := .ok event.envelope

namespace Envelope

/-- The announcement in an envelope, if it is of the kind that the envelope
names. -/
def payload? (envelope : Envelope) : Except EnvelopeError EventPayload :=
  match Binary.read? EventPayload envelope.data with
  | none => .error (.malformed "the bytes hold no announcement")
  | some (payload, _) =>
      if payload.kind = envelope.kind then .ok payload
      else .error (.kindMismatch envelope.kind payload.kind)

/-- The announcement in an envelope with its request, number and call. -/
def event? (envelope : Envelope) : Except EnvelopeError Event :=
  match envelope.payload? with
  | .error reason => .error reason
  | .ok payload =>
      match requestOfStream? envelope.stream with
      | none => .error (.foreignStream envelope.stream)
      | some request =>
          .ok ⟨envelope.mark.event, request, envelope.sequence,
            envelope.mark.correlation.getD .nil, envelope.mark.moment, payload⟩

def text (envelope : Envelope) : String :=
  "SerializedEvent \x7b type: " ++ envelope.kind ++ ", aggregate: " ++ envelope.stream ++
    ", seq: " ++ toString envelope.sequence.toNat ++ ", size: " ++
    toString envelope.data.length ++ " bytes \x7d"

instance : JsonForm Envelope where
  write envelope := .object [("event_type", Json.of envelope.kind),
    ("aggregate_id", Json.of envelope.stream), ("sequence", Json.of envelope.sequence),
    ("data", Json.of envelope.data), ("metadata", Json.of envelope.mark)]
  read? value := do
    match ← Json.slots? ["event_type", "aggregate_id", "sequence", "data", "metadata"] value with
    | [kind, stream, sequence, data, mark] =>
        return ⟨← Json.required kind, ← Json.required stream, ← Json.required sequence,
          ← Json.required data, ← Json.required mark⟩
    | _ => none

end Envelope

end BenefitCasework
