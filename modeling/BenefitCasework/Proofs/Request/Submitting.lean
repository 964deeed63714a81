import BenefitCasework.Proofs.Permission.Demands
import BenefitCasework.Proofs.Request.Refusing

/-!
Contract: when a draft is handed in, and what it is turned down for.

Owns:
- `Beneficiary.not_isMinorAt_of_before`, nobody grows younger;
- `Requester.Represents` and `Misrepresents`, who may speak for a minor and what is
  said to everybody else;
- `Request.lacking`, the documents that are still to be handed in, in the order in
  which they are demanded;
- `Request.Submittable` and `Request.TurnedDown`, the conditions of a submission
  and the first of them that fails;
- `Request.apart`, a request apart from its documents, which is all that attaching
  documents changes;
- `drafts_are_submitted`.

It is about every draft, whether or not a run leads to it. Does not own: what a
submission makes of a request.
-/

namespace BenefitCasework

/-! ### Coming of age -/

theorem Date.PartsBefore.trans {first second third : Int × Nat × Nat}
    (earlier : Date.PartsBefore first second) (later : Date.PartsBefore second third) :
    Date.PartsBefore first third := by
  unfold Date.PartsBefore at *
  omega

/-- The day of an earlier moment is no later. -/
theorem Instant.Before.date_le {earlier later : Instant} (before : earlier.Before later) :
    earlier.date.Before later.date ∨ earlier.date = later.date :=
  before.imp id And.left

/-- Whoever has come of age stays of age. -/
theorem Beneficiary.not_isMinorAt_of_before (beneficiary : Beneficiary) {earlier later : Instant}
    (before : earlier.Before later) (ofAge : beneficiary.isMinorAt earlier = false) :
    beneficiary.isMinorAt later = false := by
  by_contra younger
  have minorLater := (beneficiary.isMinorAt_iff later).mp (eq_true_of_ne_false younger)
  have minorEarlier : beneficiary.isMinorAt earlier = true := by
    rw [beneficiary.isMinorAt_iff]
    obtain sooner | sameDay := before.date_le
    · exact Date.PartsBefore.trans sooner minorLater
    · rw [sameDay]
      exact minorLater
  rw [ofAge] at minorEarlier
  cases minorEarlier

/-! ### Speaking for a minor -/

/-- A requester may speak for a minor as another person who is a parent or the legal
guardian. -/
def Requester.Represents (requester : Requester) (beneficiary : Beneficiary) : Prop :=
  requester.citizen ≠ beneficiary.citizen ∧
    (requester.kinship = some .mother ∨ requester.kinship = some .father ∨
      requester.kinship = some .legalGuardian)

/-- What is held against a requester who may not speak for a minor. -/
inductive Misrepresents (requester : Requester) (beneficiary : Beneficiary) :
    Misrepresentation → Prop where
  | ownMinor (same : requester.citizen = beneficiary.citizen) :
      Misrepresents requester beneficiary .ownMinor
  | distantKin {kinship : Kinship} (different : requester.citizen ≠ beneficiary.citizen)
      (related : requester.kinship = some kinship)
      (distant : kinship ≠ .mother ∧ kinship ≠ .father ∧ kinship ≠ .legalGuardian) :
      Misrepresents requester beneficiary (.distantKin kinship)
  | unknownKin (different : requester.citizen ≠ beneficiary.citizen)
      (unrelated : requester.kinship = none) :
      Misrepresents requester beneficiary .unknownKin

theorem Kinship.isFirstDegree_iff {kinship : Kinship} : kinship.isFirstDegree = true ↔
    kinship = .mother ∨ kinship = .father ∨ kinship = .legalGuardian := by
  cases kinship <;> simp [isFirstDegree]

section Representation

variable {beneficiary : Beneficiary} {requester : Requester} {moment : Instant}

theorem checkRepresentation_eq_ok_iff :
    checkRepresentation beneficiary requester moment = .ok () ↔
      (beneficiary.isMinorAt moment = false ∨ requester.Represents beneficiary) := by
  unfold checkRepresentation Requester.Represents
  cases beneficiary.isMinorAt moment with
  | false => simp
  | true =>
      by_cases same : requester.citizen = beneficiary.citizen
      · simp [same]
      · cases requester.kinship with
        | none => simp [same]
        | some kinship =>
            by_cases first : kinship.isFirstDegree = true
            · simpa [same, first] using Kinship.isFirstDegree_iff.mp first
            · simpa [same, first] using fun related => first (Kinship.isFirstDegree_iff.mpr related)

theorem checkRepresentation_eq_error_iff {reason : Misrepresentation} :
    checkRepresentation beneficiary requester moment = .error reason ↔
      beneficiary.isMinorAt moment = true ∧ Misrepresents requester beneficiary reason := by
  unfold checkRepresentation
  constructor
  · intro unfit
    split at unfit
    · rename_i minor
      refine ⟨minor, ?_⟩
      split at unfit
      · rename_i same
        cases unfit
        exact .ownMinor same
      · rename_i different
        split at unfit
        · rename_i kinship related
          split at unfit
          · cases unfit
          · rename_i distant
            cases unfit
            refine .distantKin different related ?_
            simpa [Kinship.isFirstDegree_iff] using distant
        · rename_i unrelated
          cases unfit
          exact .unknownKin different unrelated
    · cases unfit
  · rintro ⟨minor, misrepresents⟩
    rw [if_pos minor]
    cases misrepresents with
    | ownMinor same => rw [if_pos same]
    | distantKin different related distant =>
        rw [if_neg different, related]
        refine if_neg ?_
        simpa [Kinship.isFirstDegree_iff] using distant
    | unknownKin different unrelated => rw [if_neg different, unrelated]

end Representation

/-! ### What a draft needs -/

/-- Which documents are missing depends neither on the order of those that are
attached nor on how often they are. -/
theorem DocumentTable.missing_congr (table : DocumentTable) (benefitType : String)
    {one other : List String} (same : ∀ document, document ∈ one ↔ document ∈ other) :
    table.missing benefitType one = table.missing benefitType other := by
  simp [missing, List.contains_eq_mem, same]

namespace Request

/-- The documents that are demanded and not attached, as they are demanded. -/
def lacking (request : Request) (documents : DocumentTable) : List String :=
  (documents.demanded request.benefitType).filter fun document =>
    !(request.documents.map AttachedDocument.documentType).contains document

theorem missing_attachedTypes (request : Request) (documents : DocumentTable) :
    documents.missing request.benefitType request.attachedTypes = request.lacking documents := by
  refine documents.missing_congr request.benefitType fun document => ?_
  simp [mem_attachedTypes]

/-- The conditions of a submission. -/
structure Submittable (request : Request) (call : Call) (documents : DocumentTable) : Prop where
  entitled : call.caller.actor.holds .unitTechnician = true ∨
    call.caller.actor.holds .admin = true
  complete : ∀ document ∈ documents.demanded request.benefitType,
    ∃ attached ∈ request.documents, attached.documentType = document
  represented : request.beneficiary.isMinorAt call.moment = false ∨
    request.requester.Represents request.beneficiary

/-- What a submission is turned down for, the first condition that fails. -/
inductive TurnedDown (request : Request) (call : Call) (documents : DocumentTable) :
    RequestError → Prop where
  | unentitled (technician : call.caller.actor.holds .unitTechnician = false)
      (admin : call.caller.actor.holds .admin = false) :
      TurnedDown request call documents
        (.denied (.roleNotPermitted .submit [.unitTechnician, .admin]))
  | incomplete (entitled : call.caller.actor.holds .unitTechnician = true ∨
        call.caller.actor.holds .admin = true)
      (lacks : request.lacking documents ≠ []) :
      TurnedDown request call documents (.missingDocuments (request.lacking documents))
  | misrepresented {reason : Misrepresentation}
      (entitled : call.caller.actor.holds .unitTechnician = true ∨
        call.caller.actor.holds .admin = true)
      (complete : request.lacking documents = [])
      (minor : request.beneficiary.isMinorAt call.moment = true)
      (unfit : Misrepresents request.requester request.beneficiary reason) :
      TurnedDown request call documents (.invalidRepresentative reason.message)

variable {request : Request} {call : Call} {documents : DocumentTable}
  {channels : ChannelTable} {fresh : Nat → Identifier}

theorem lacking_eq_nil_iff : request.lacking documents = [] ↔
    ∀ document ∈ documents.demanded request.benefitType,
      ∃ attached ∈ request.documents, attached.documentType = document := by
  simp [lacking]

/-- Roles are all that permission to submit a draft asks for. -/
theorem decide_submit (draft : request.status = .draft) (actor : Actor) :
    Permission.decide request.status .submit actor request =
      if actor.holds .unitTechnician = true ∨ actor.holds .admin = true then .ok ()
      else .error (.roleNotPermitted .submit [.unitTechnician, .admin]) := by
  have entitled : actor.holdsAny Operation.submit.permittedRoles = true ↔
      actor.holds .unitTechnician = true ∨ actor.holds .admin = true := by
    simp [Operation.permittedRoles, Actor.holdsAny_iff]
  have allowed : Status.draft ∈ Operation.submit.allowedFrom := List.mem_cons_self
  rw [draft, Permission.decide_of_onlyTable rfl allowed, ← if_congr entitled rfl rfl]
  rfl

/-- A draft is turned down for the first condition that fails. -/
theorem result_submit_eq_error_iff (draft : request.status = .draft) {reason : RequestError} :
    (request.apply .submit call (.demanding documents channels) fresh).result = .error reason ↔
      request.TurnedDown call documents reason := by
  have missing : (Office.demanding documents channels).missing = documents.missing := rfl
  have permission := decide_submit draft call.caller.actor
  by_cases entitled : call.caller.actor.holds .unitTechnician = true ∨
      call.caller.actor.holds .admin = true
  · rw [if_pos entitled] at permission
    rw [result_apply_of_permitted _ fresh permission]
    constructor
    · intro hindered
      cases hindered with
      | documentsMissing incomplete =>
          rw [missing, missing_attachedTypes] at incomplete ⊢
          exact .incomplete entitled incomplete
      | misrepresented complete unfit =>
          rw [missing, missing_attachedTypes] at complete
          obtain ⟨minor, unfit⟩ := checkRepresentation_eq_error_iff.mp unfit
          exact .misrepresented entitled complete minor unfit
    · intro turnedDown
      cases turnedDown with
      | unentitled technician admin => simp [technician, admin] at entitled
      | incomplete _ lacks =>
          rw [← missing_attachedTypes, ← missing] at lacks ⊢
          exact .documentsMissing lacks
      | misrepresented _ complete minor unfit =>
          rw [← missing_attachedTypes, ← missing] at complete
          exact .misrepresented complete (checkRepresentation_eq_error_iff.mpr ⟨minor, unfit⟩)
  · rw [if_neg entitled] at permission
    rw [result_apply_eq_denied_iff.mpr permission]
    constructor
    · rintro ⟨⟩
      obtain ⟨technician, admin⟩ := not_or.mp entitled
      exact .unentitled (eq_false_of_ne_true technician) (eq_false_of_ne_true admin)
    · intro turnedDown
      cases turnedDown with
      | unentitled technician admin => rfl
      | incomplete holds lacks => exact absurd holds entitled
      | misrepresented holds complete minor unfit => exact absurd holds entitled

theorem accepted_submit_iff (draft : request.status = .draft) :
    (request.apply .submit call (.demanding documents channels) fresh).accepted = true ↔
      request.Submittable call documents := by
  have missing : (Office.demanding documents channels).missing = documents.missing := rfl
  have permission := decide_submit draft call.caller.actor
  have complete : request.checkOffice .submit call (.demanding documents channels) = .ok () ↔
      request.lacking documents = [] ∧
        (request.beneficiary.isMinorAt call.moment = false ∨
          request.requester.Represents request.beneficiary) := by
    rw [checkOffice, checkComplete, missing, missing_attachedTypes,
      ← checkRepresentation_eq_ok_iff]
    cases request.lacking documents with
    | nil => cases checkRepresentation request.beneficiary request.requester call.moment <;> simp
    | cons first rest => simp
  rw [accepted_apply_iff, Admits, permission, complete, lacking_eq_nil_iff]
  constructor
  · rintro ⟨permitted, attached, represented⟩
    refine ⟨?_, attached, represented⟩
    by_contra unentitled
    rw [if_neg unentitled] at permitted
    cases permitted
  · rintro ⟨entitled, attached, represented⟩
    exact ⟨if_pos entitled, attached, represented⟩

end Request

/-! ### Attaching documents -/

/-- The attempt asks for a document to be attached. -/
def Attempt.Attaches (attempt : Attempt) : Prop := attempt.operation.name = .attachDocument

/-- The document that an attempt on a draft attaches. -/
def Attempt.attached? (attempt : Attempt) : Option String :=
  match attempt.operation with
  | .attachDocument document =>
      if attempt.call.caller.actor.holdsAny attempt.operation.permittedRoles then some document
      else none
  | _ => none

namespace Request

/-- A request apart from its documents, and from when and how often it changed. -/
def apart (request : Request) : Request :=
  { request with documents := [], version := 0, updatedAt := request.createdAt }

variable {request : Request}

/-- Attaching adds the type of a document to those that are attached, and changes
nothing apart from that. -/
theorem outcomeOf_attaches (draft : request.status = .draft) {attempt : Attempt}
    (attaches : attempt.Attaches) :
    (request.outcomeOf attempt).request.apart = request.apart ∧
      ∀ document, document ∈ (request.outcomeOf attempt).request.attachedTypes ↔
        document ∈ request.attachedTypes ∨ attempt.attached? = some document := by
  obtain ⟨operation, call, office, fresh⟩ := attempt
  cases operation with
  | attachDocument documentType =>
      have permission : request.AdmitsAttempt ⟨.attachDocument documentType, call, office, fresh⟩ ↔
          call.caller.actor.holdsAny (Operation.attachDocument documentType).permittedRoles =
            true := by
        rw [AdmitsAttempt, Admits, Permission.decide_eq_ok_iff_of_onlyTable rfl]
        simp [draft, Operation.allowedFrom, Permission.checkRule, checkOffice]
      by_cases admitted : request.AdmitsAttempt ⟨.attachDocument documentType, call, office, fresh⟩
      · rw [outcomeOf_of_admits admitted]
        refine ⟨rfl, fun document => ?_⟩
        have added : (request.carriedOutBy
            ⟨.attachDocument documentType, call, office, fresh⟩).documents =
              request.documents ++ [⟨documentType, call.caller.user, call.moment⟩] := rfl
        simp only [mem_attachedTypes, added, Attempt.attached?, permission.mp admitted]
        simp [or_and_right, exists_or, eq_comm]
      · rw [request_outcomeOf_of_not_admits admitted]
        refine ⟨rfl, fun document => ?_⟩
        simp only [Attempt.attached?, if_neg (permission.not.mp admitted)]
        simp
  | _ => cases attaches

/-- Many attempts to attach documents add what they attach, however often and in
whatever order, and change nothing apart from that. -/
theorem after_attaches (draft : request.status = .draft) {attempts : List Attempt}
    (attaching : ∀ attempt ∈ attempts, attempt.Attaches) :
    (request.after attempts).apart = request.apart ∧
      ∀ document, document ∈ (request.after attempts).attachedTypes ↔
        document ∈ request.attachedTypes ∨ document ∈ attempts.filterMap Attempt.attached? := by
  induction attempts generalizing request with
  | nil => exact ⟨rfl, by simp [after]⟩
  | cons attempt rest inductionHypothesis =>
      obtain ⟨first, others⟩ := List.forall_mem_cons.mp attaching
      obtain ⟨unchanged, added⟩ := outcomeOf_attaches draft first
      have stillDraft : (request.outcomeOf attempt).request.status = .draft :=
        (congrArg Request.status unchanged).trans draft
      obtain ⟨unchangedBehind, addedBehind⟩ := inductionHypothesis stillDraft others
      refine ⟨unchangedBehind.trans unchanged, fun document => (addedBehind document).trans ?_⟩
      rw [added, or_assoc]
      simp [List.mem_filterMap]

/-- A submission reads nothing of the documents but their types. -/
theorem apply_submit_congr {one other : Request} (same : one.apart = other.apart)
    (attached : ∀ document, document ∈ one.attachedTypes ↔ document ∈ other.attachedTypes)
    (call : Call) (documents : DocumentTable) (channels : ChannelTable)
    (fresh : Nat → Identifier) :
    let office := Office.demanding documents channels
    (one.apply .submit call office fresh).result = (other.apply .submit call office fresh).result ∧
      (one.apply .submit call office fresh).request.apart =
        (other.apply .submit call office fresh).request.apart := by
  intro office
  have apartDecide (request : Request) :
      Permission.decide request.status .submit call.caller.actor request =
        Permission.decide request.apart.status .submit call.caller.actor request.apart := rfl
  have apartEvents (request : Request) : request.eventsOf .submit call office fresh =
      request.apart.eventsOf .submit call office fresh := rfl
  have apartCarriedOut (request : Request) :
      (request.carriedOut .submit call office fresh).apart =
        (request.apart.carriedOut .submit call office fresh).apart := by
    cases triage : request.route.hasTriage <;>
      simp [carriedOut, prepared, path, announcement?, apart, triage, settled, moved, touch,
        counted, entryTo]
  have sameMissing : office.missing one.benefitType one.attachedTypes =
      office.missing other.benefitType other.attachedTypes := by
    have sameType := congrArg Request.benefitType same
    rw [show one.benefitType = other.benefitType from sameType]
    exact documents.missing_congr other.benefitType attached
  have lacking : one.checkOffice .submit call office = other.checkOffice .submit call office := by
    have sameBeneficiary := congrArg Request.beneficiary same
    have sameRequester := congrArg Request.requester same
    rw [checkOffice, checkOffice, checkComplete, checkComplete, sameMissing,
      show one.beneficiary = other.beneficiary from sameBeneficiary,
      show one.requester = other.requester from sameRequester]
  rw [apply_eq, apply_eq, apartDecide one, apartDecide other, same]
  cases Permission.decide other.apart.status .submit call.caller.actor other.apart with
  | error denial => exact ⟨rfl, same⟩
  | ok _ =>
      simp only [consequence, lacking]
      cases other.checkOffice .submit call office with
      | error reason => exact ⟨rfl, same⟩
      | ok _ =>
          refine ⟨congrArg Except.ok ?_, ?_⟩
          · rw [apartEvents one, apartEvents other, same]
          · rw [apartCarriedOut one, apartCarriedOut other, same]

end Request

/-- A draft is submitted exactly when the caller is a unit technician or an admin,
every document that is demanded is attached, and the beneficiary is of age or
spoken for by another person who is a parent or the legal guardian; and it is
turned down for the first of these that fails. A person is a minor exactly until
the day of the year on which they were born comes round for the eighteenth time,
and never again. In which order documents were attached, and how often, makes no
difference. -/
theorem drafts_are_submitted {request : Request} (draft : request.status = .draft) :
    (∀ (call : Call) (documents : DocumentTable) (channels : ChannelTable)
        (fresh : Nat → Identifier),
      let outcome := request.apply .submit call (.demanding documents channels) fresh
      (outcome.accepted = true ↔ request.Submittable call documents) ∧
        ∀ reason, outcome.result = .error reason ↔ request.TurnedDown call documents reason) ∧
      (∀ (beneficiary : Beneficiary) (moment : Instant), beneficiary.isMinorAt moment = true ↔
        Date.PartsBefore moment.date.parts (beneficiary.birthDate.year + 18,
          beneficiary.birthDate.month, beneficiary.birthDate.day)) ∧
      (∀ (beneficiary : Beneficiary) (earlier later : Instant), earlier.Before later →
        beneficiary.isMinorAt earlier = false → beneficiary.isMinorAt later = false) ∧
      ∀ one other : List Attempt, (∀ attempt ∈ one ++ other, attempt.Attaches) →
        (∀ document, document ∈ one.filterMap Attempt.attached? ↔
          document ∈ other.filterMap Attempt.attached?) →
        ∀ (call : Call) (documents : DocumentTable) (channels : ChannelTable)
            (fresh : Nat → Identifier),
          let office := Office.demanding documents channels
          let first := (request.after one).apply .submit call office fresh
          let second := (request.after other).apply .submit call office fresh
          first.result = second.result ∧ first.request.apart = second.request.apart := by
  refine ⟨?submitted, Beneficiary.isMinorAt_iff, ?ofAge, ?rearranged⟩
  case submitted =>
    intro call documents channels fresh outcome
    refine ⟨Request.accepted_submit_iff draft, fun reason => ?_⟩
    exact Request.result_submit_eq_error_iff draft
  case ofAge =>
    intro beneficiary earlier later before
    exact beneficiary.not_isMinorAt_of_before before
  case rearranged =>
    intro one other attaching same call documents channels fresh
    obtain ⟨oneAttaches, otherAttaches⟩ := List.forall_mem_append.mp attaching
    obtain ⟨oneApart, oneAttached⟩ := Request.after_attaches draft oneAttaches
    obtain ⟨otherApart, otherAttached⟩ := Request.after_attaches draft otherAttaches
    refine Request.apply_submit_congr (oneApart.trans otherApart.symm) ?_ call documents channels fresh
    intro document
    rw [oneAttached, otherAttached, same]

namespace Sample

/-- The draft of a mother for a child who is born on a leap day. -/
def forChild : Request :=
  { opened with
    beneficiary := ⟨.numbered 4, "Ana", ⟨2008, 2, 29, by decide⟩⟩
    requester := ⟨.numbered 7, some .mother⟩ }

/-- Two documents are demanded. -/
def demanded : DocumentTable := [("food_basket", ["birth certificate", "proof of address"])]

/-- The two are attached as they are demanded. -/
def inOrder : List Attempt :=
  [attempt (.attachDocument "birth certificate") 10,
    attempt (.attachDocument "proof of address") 10]

/-- The two are attached the other way round, and one of them again. -/
def outOfOrder : List Attempt := inOrder.reverse ++ inOrder.take 1

end Sample

/-- The draft for a child is turned down while documents are missing, and handed in
once they are attached, in whatever order. -/
theorem mother_submits_for_a_child :
    Sample.forChild.status = .draft ∧
      Sample.forChild.beneficiary.isMinorAt .newYear2025 = true ∧
      (Sample.forChild.apply .submit Sample.call (.demanding Sample.demanded [])
          (.fresh 20)).result =
        .error (.missingDocuments ["birth certificate", "proof of address"]) ∧
      let first := (Sample.forChild.after Sample.inOrder).apply .submit Sample.call
        (.demanding Sample.demanded []) (.fresh 20)
      let second := (Sample.forChild.after Sample.outOfOrder).apply .submit Sample.call
        (.demanding Sample.demanded []) (.fresh 20)
      first.accepted = true ∧ first.result = second.result := by
  obtain ⟨submitted, minorIff, -, rearranged⟩ := drafts_are_submitted
    (show Sample.forChild.status = .draft from rfl)
  have minor := (minorIff Sample.forChild.beneficiary .newYear2025).mpr (by decide)
  have lacks := ((submitted Sample.call Sample.demanded [] (.fresh 20)).2 _).mpr
    (.incomplete (.inr rfl) (by decide))
  have same : ∀ document, document ∈ Sample.inOrder.filterMap Attempt.attached? ↔
      document ∈ Sample.outOfOrder.filterMap Attempt.attached? := by
    intro document
    simp [Sample.outOfOrder, Sample.inOrder, or_comm]
  have attaching : ∀ attempt ∈ Sample.inOrder ++ Sample.outOfOrder, attempt.Attaches := by
    simp [Sample.outOfOrder, Sample.inOrder, Attempt.Attaches, Sample.attempt, Operation.name]
  have complete : (Sample.forChild.after Sample.inOrder).Submittable Sample.call
      Sample.demanded :=
    ⟨.inr rfl, by decide +kernel, .inr ⟨by decide, .inl rfl⟩⟩
  have attached := drafts_are_submitted
    (show (Sample.forChild.after Sample.inOrder).status = .draft from rfl)
  have accepted := (attached.1 Sample.call Sample.demanded [] (.fresh 20)).1.mpr complete
  have independent := rearranged Sample.inOrder Sample.outOfOrder attaching same Sample.call
    Sample.demanded [] (.fresh 20)
  exact ⟨rfl, minor, lacks, accepted, independent.1⟩

end BenefitCasework
