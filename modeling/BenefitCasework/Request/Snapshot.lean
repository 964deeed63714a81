import BenefitCasework.Request.Basic

/-!
Contract: the written form of a request.

Owns:
- the written forms of a request and of the records inside it;
- `Request.snapshot`, the fields of that form.

Does not own: which of the fields are audited.
-/

namespace BenefitCasework

instance : JsonForm HistoryEntry where
  write entry := .object [("from", Json.of entry.source), ("to", Json.of entry.target),
    ("operation", Json.of entry.operation), ("actor", Json.of entry.actor),
    ("at", Json.of entry.moment), ("justification", Json.of entry.justification),
    ("correlation_id", Json.of entry.correlation)]
  read? value := do
    match ← Json.slots? ["from", "to", "operation", "actor", "at", "justification",
        "correlation_id"] value with
    | [source, target, operation, actor, moment, justification, correlation] =>
        return ⟨← Json.required source, ← Json.required target, ← Json.required operation,
          ← Json.required actor, ← Json.required moment, ← Json.optional justification,
          ← Json.required correlation⟩
    | _ => none

instance : JsonForm AttachedDocument where
  write document := .object [("document_type", Json.of document.documentType),
    ("attached_by", Json.of document.user), ("attached_at", Json.of document.moment)]
  read? value := do
    match ← Json.slots? ["document_type", "attached_by", "attached_at"] value with
    | [documentType, user, moment] =>
        return ⟨← Json.required documentType, ← Json.required user, ← Json.required moment⟩
    | _ => none

instance : JsonForm TechnicalOpinion where
  write opinion := .object [("text", Json.of opinion.text), ("author", Json.of opinion.author),
    ("recorded_at", Json.of opinion.moment)]
  read? value := do
    match ← Json.slots? ["text", "author", "recorded_at"] value with
    | [text, author, moment] =>
        return ⟨← Json.required text, ← Json.required author, ← Json.required moment⟩
    | _ => none

instance : JsonForm GateApproval where
  write approval := .object [("gate", Json.of approval.gate), ("approved_by", Json.of approval.user),
    ("approved_at", Json.of approval.moment)]
  read? value := do
    match ← Json.slots? ["gate", "approved_by", "approved_at"] value with
    | [gate, user, moment] =>
        return ⟨← Json.required gate, ← Json.required user, ← Json.required moment⟩
    | _ => none

instance : JsonForm Release where
  write release := .object [("payment", Json.of release.payment),
    ("channel", Json.of release.channel), ("released_by", Json.of release.user),
    ("released_at", Json.of release.moment)]
  read? value := do
    match ← Json.slots? ["payment", "channel", "released_by", "released_at"] value with
    | [payment, channel, user, moment] =>
        return ⟨← Json.required payment, ← Json.required channel, ← Json.required user,
          ← Json.required moment⟩
    | _ => none

instance : JsonForm NewRequest where
  write new := .object [("beneficiary", Json.of new.beneficiary),
    ("requester", Json.of new.requester), ("benefit_type", Json.of new.benefitType),
    ("origin", Json.of new.origin)]
  read? value := do
    match ← Json.slots? ["beneficiary", "requester", "benefit_type", "origin"] value with
    | [beneficiary, requester, benefitType, origin] =>
        return ⟨← Json.required beneficiary, ← Json.required requester,
          ← Json.required benefitType, ← Json.required origin⟩
    | _ => none

namespace Request

def snapshot (request : Request) : JsonFields :=
  [("id", Json.of request.id), ("beneficiary", Json.of request.beneficiary),
    ("requester", Json.of request.requester), ("benefit_type", Json.of request.benefitType),
    ("origin", Json.of request.origin), ("status", Json.of request.status),
    ("route", Json.of request.route), ("history", Json.of request.history),
    ("pendencies", Json.of request.pendencies), ("documents", Json.of request.documents),
    ("technical_opinion", Json.of request.opinion), ("gate_approvals", Json.of request.approvals),
    ("release", Json.of request.release), ("delivery_note", Json.of request.deliveryNote),
    ("created_by", Json.of request.createdBy), ("created_at", Json.of request.createdAt),
    ("updated_at", Json.of request.updatedAt), ("version", Json.of request.version),
    ("event_sequence", Json.of request.eventSequence)]

instance : JsonForm Request where
  write request := .object request.snapshot
  read? value := do
    match ← Json.slots? ["id", "beneficiary", "requester", "benefit_type", "origin", "status",
        "route", "history", "pendencies", "documents", "technical_opinion", "gate_approvals",
        "release", "delivery_note", "created_by", "created_at", "updated_at", "version",
        "event_sequence"] value with
    | [id, beneficiary, requester, benefitType, origin, status, route, history, pendencies,
        documents, opinion, approvals, release, deliveryNote, createdBy, createdAt, updatedAt,
        version, eventSequence] =>
        return {
          id := ← Json.required id
          beneficiary := ← Json.required beneficiary
          requester := ← Json.required requester
          benefitType := ← Json.required benefitType
          origin := ← Json.required origin
          status := ← Json.required status
          route := ← Json.required route
          history := ← Json.required history
          pendencies := ← Json.required pendencies
          documents := ← Json.required documents
          opinion := ← Json.optional opinion
          approvals := ← Json.required approvals
          release := ← Json.optional release
          deliveryNote := ← Json.optional deliveryNote
          createdBy := ← Json.required createdBy
          createdAt := ← Json.required createdAt
          updatedAt := ← Json.required updatedAt
          version := ← Json.required version
          eventSequence := ← Json.required eventSequence }
    | _ => none

end Request

end BenefitCasework
