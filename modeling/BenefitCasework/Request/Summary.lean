import BenefitCasework.Request.Snapshot

/-!
Contract: a request in a few words.

Owns:
- `Request.summary`, what people ask for first;
- `Route.summaryFields`, a route with its approval gates by name;
- `Request.changedSince`, the fields that differ from an earlier snapshot.

Does not own: the complete written form.
-/

namespace BenefitCasework

def Route.summaryFields (route : Route) : JsonFields :=
  [("route", Json.of route), ("has_triage", .boolean route.hasTriage),
    ("approval_gates", Json.of (route.approvalGates.map Gate.name)),
    ("approval_gate_count", .integer route.approvalGates.length)]

namespace Request

def summary (request : Request) : Json :=
  .object [("id", Json.of request.id), ("status", Json.of request.status),
    ("version", Json.of request.version), ("origin", Json.of request.origin),
    ("benefit_type", Json.of request.benefitType),
    ("beneficiary", Json.of request.beneficiary.name),
    ("kinship", Json.of request.requester.kinship), ("created_by", Json.of request.createdBy),
    ("created_at", Json.of request.createdAt), ("updated_at", Json.of request.updatedAt),
    ("history", .array (request.history.map fun entry =>
      .string (entry.source.name ++ ">" ++ entry.target.name))),
    ("current_gate", Json.of (request.currentGate?.map Gate.name)),
    ("has_triage", .boolean request.route.hasTriage),
    ("approval_gate_count", .integer request.route.approvalGates.length),
    ("config_version", Json.of request.route.revision),
    ("attached_types", Json.of request.attachedTypes),
    ("documents", .integer request.documents.length), ("cycle", Json.of request.pendencies.cycle),
    ("open_pendencies", Json.of (request.pendencies.openItems.map Pendency.id)),
    ("opinion", Json.of (request.opinion.map TechnicalOpinion.text)),
    ("gates_passed", Json.of (request.approvals.map GateApproval.gate)),
    ("released", Json.of (request.release.map fun release => release.payment.cents)),
    ("delivery_note", Json.of request.deliveryNote)]

def changedSince (request : Request) (earlier : JsonFields) : JsonFields :=
  request.snapshot.filter fun field => Json.lookup field.1 earlier != some field.2

end Request

end BenefitCasework
