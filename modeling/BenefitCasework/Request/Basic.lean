import BenefitCasework.Actor
import BenefitCasework.Payment
import BenefitCasework.Pendency
import BenefitCasework.Person
import BenefitCasework.Route
import BenefitCasework.Status

/-!
Contract: a request for a benefit, with everything that happened to it.

Owns:
- `Request`, the record, and the records inside it;
- what can be read off a request: the gate it waits for, the documents
  attached;
- `nextVersion`, which stays at the largest number once it is reached.

Does not own: how a request changes.
-/

namespace BenefitCasework

/-- How a request came in. -/
inductive Origin where
  | inPerson
  | messagingChannel
deriving DecidableEq, Repr, Inhabited

namespace Origin

def all : List Origin := [.inPerson, .messagingChannel]

def name : Origin → String
  | .inPerson => "InPerson"
  | .messagingChannel => "MessagingChannel"

instance : JsonForm Origin where
  write origin := .string origin.name
  read? := Json.named? all name

end Origin

/-- One move from a status to another. -/
structure HistoryEntry where
  source : Status
  target : Status
  operation : String
  actor : Actor
  moment : Instant
  justification : Option String
  correlation : Identifier
deriving DecidableEq

/-- A document that was attached. -/
structure AttachedDocument where
  documentType : String
  user : Identifier
  moment : Instant
deriving DecidableEq

/-- The opinion of a technical reviewer. -/
structure TechnicalOpinion where
  text : String
  author : Identifier
  moment : Instant
deriving DecidableEq

/-- A gate that was opened. -/
structure GateApproval where
  gate : String
  user : Identifier
  moment : Instant
deriving DecidableEq

/-- A payment that was released. -/
structure Release where
  payment : Payment
  channel : PaymentChannel
  user : Identifier
  moment : Instant
deriving DecidableEq

/-- What is needed to open a request. -/
structure NewRequest where
  beneficiary : Beneficiary
  requester : Requester
  benefitType : String
  origin : Origin
deriving DecidableEq

/-- A request for a benefit. -/
structure Request where
  id : Identifier
  beneficiary : Beneficiary
  requester : Requester
  benefitType : String
  origin : Origin
  status : Status
  route : Route
  history : List HistoryEntry
  pendencies : PendencyLog
  documents : List AttachedDocument
  opinion : Option TechnicalOpinion
  approvals : List GateApproval
  release : Option Release
  deliveryNote : Option String
  createdBy : Identifier
  createdAt : Instant
  updatedAt : Instant
  version : UInt64
  eventSequence : UInt64
deriving DecidableEq

/-- The version after a version. The largest one is followed by itself. -/
def nextVersion (version : UInt64) : UInt64 :=
  if version = UInt64.ofNat (UInt64.size - 1) then version else version + 1

/-- Puts a text into a list that is sorted and holds each text once. -/
def insertText (text : String) : List String → List String
  | [] => [text]
  | first :: rest =>
      if text = first then first :: rest
      else if text < first then text :: first :: rest
      else first :: insertText text rest

namespace Request

/-- The approval gate that the request waits for, if one is left. -/
def currentGate? (request : Request) : Option Gate :=
  request.route.approvalGate? request.approvals.length

def attachedTypes (request : Request) : List String :=
  (request.documents.map AttachedDocument.documentType).foldr insertText []

end Request

theorem mem_insertText {text other : String} {texts : List String} :
    other ∈ insertText text texts ↔ other = text ∨ other ∈ texts := by
  induction texts with
  | nil => simp [insertText]
  | cons first rest inductionHypothesis =>
      simp only [insertText]
      split
      · rename_i same
        subst same
        simp
      · split
        · simp
        · simp only [List.mem_cons, inductionHypothesis]
          constructor
          · rintro (equal | equal | member)
            · exact Or.inr (Or.inl equal)
            · exact Or.inl equal
            · exact Or.inr (Or.inr member)
          · rintro (equal | equal | member)
            · exact Or.inr (Or.inl equal)
            · exact Or.inl equal
            · exact Or.inr (Or.inr member)

/-- A type is attached exactly when a document of that type is. -/
theorem Request.mem_attachedTypes {request : Request} {documentType : String} :
    documentType ∈ request.attachedTypes ↔
      ∃ document ∈ request.documents, document.documentType = documentType := by
  have member (texts : List String) : documentType ∈ texts.foldr insertText [] ↔
      documentType ∈ texts := by
    induction texts with
    | nil => simp
    | cons first rest inductionHypothesis =>
        simp [mem_insertText, inductionHypothesis]
  simp [attachedTypes, member]

end BenefitCasework
