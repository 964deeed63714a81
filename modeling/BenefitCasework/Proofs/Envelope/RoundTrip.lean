import BenefitCasework.Proofs.Calendar.DateText
import BenefitCasework.Proofs.Stream

/-!
Contract: an announcement is read back from its envelope.

Owns:
- `Binary.Readable`, a value that is read back from its bytes, whatever follows;
- one such law for each type that is written in bytes;
- `EventPayload.Fits`, announcements whose texts and lists are shorter than the
  largest length that is written;
- `Envelope.extendedBy`, an envelope with bytes behind the announcement;
- `Event.event?_extendedBy`, `Event.event?_envelope` and
  `Event.eq_of_map_envelope`;
- `envelope_tells_its_event`.

Does not own: bytes that nobody has written.
-/

namespace BenefitCasework

namespace Binary

/-- The value is read back from its bytes, whatever follows. -/
def Readable {α : Type} [BinaryForm α] (content : α) : Prop :=
  ∀ rest, read? α (bytesOf content ++ rest) = some (content, rest)

section Parts

variable {α β : Type} [BinaryForm α]

/-- What was written first is read first. -/
theorem Readable.first {content : α} (readable : Readable content) {rest : List UInt8}
    {next : α × List UInt8 → Option β} {result : Option β}
    (later : next (content, rest) = result) :
    (read? α (bytesOf content ++ rest) >>= next) = result := by
  rw [readable rest]
  exact later

theorem first_of_readLow {count value : Nat} {rest : List UInt8} (small : value < Nat.pow 256 count)
    {next : Nat × List UInt8 → Option β} {result : Option β}
    (later : next (value, rest) = result) :
    (readLow count (lowBytes count value ++ rest) >>= next) = result := by
  rw [readLow_lowBytes count value rest small]
  exact later

theorem readMany_flatMap {items : List α} (readable : ∀ item ∈ items, Readable item)
    (rest : List UInt8) :
    readMany α items.length (items.flatMap bytesOf ++ rest) = some (items, rest) := by
  induction items with
  | nil => rfl
  | cons item others inductionHypothesis =>
      have later := inductionHypothesis fun other member =>
        readable other (List.mem_cons_of_mem _ member)
      rw [List.flatMap_cons, List.append_assoc, List.length_cons]
      refine (readable item List.mem_cons_self).first ?_
      simp only [later]
      rfl

theorem readable_list {items : List α} (short : items.length < UInt64.size)
    (readable : ∀ item ∈ items, Readable item) : Readable items := by
  intro rest
  have written : bytesOf items ++ rest =
      lowBytes 8 items.length ++ (items.flatMap bytesOf ++ rest) := by
    rw [← List.append_assoc]
    rfl
  rw [written]
  exact first_of_readLow short (readMany_flatMap readable rest)

theorem readable_option {content : Option α} (readable : ∀ value ∈ content, Readable value) :
    Readable content := by
  intro rest
  cases content with
  | none => rfl
  | some value => exact (readable value rfl).first rfl

end Parts

theorem readPlace_place {α : Type} [DecidableEq α] {all : List α} {value : α} (member : value ∈ all)
    (short : all.length < Nat.pow 256 4) (rest : List UInt8) :
    readPlace all (place all value ++ rest) = some (value, rest) := by
  have below : all.idxOf value < all.length := List.idxOf_lt_length_of_mem member
  have read := readLow_lowBytes 4 (all.idxOf value) rest (Nat.lt_trans below short)
  simp only [readPlace, place, read, Option.bind_eq_bind, Option.bind_some,
    List.getElem?_eq_getElem below, List.getElem_idxOf]
  rfl

theorem readable_word32 (value : UInt32) : Readable value := by
  intro rest
  exact first_of_readLow value.toNat_lt (by simp)

theorem readable_word64 (value : UInt64) : Readable value := by
  intro rest
  exact first_of_readLow value.toNat_lt (by simp)

theorem readable_text {text : String} (short : (Text.utf8 text).length < UInt64.size) :
    Readable text := by
  intro rest
  rw [show read? String (bytesOf text ++ rest) =
    (readSized (sized (Text.utf8 text) ++ rest) >>= fun read =>
      Text.ofUtf8? read.1 >>= fun text => some (text, read.2)) from rfl,
    readSized_sized _ rest short]
  simp [Text.ofUtf8?_utf8]

theorem readable_identifier (identifier : Identifier) : Readable identifier := by
  intro rest
  have short : identifier.toBytes.length < UInt64.size := by
    rw [Identifier.length_toBytes]
    decide
  rw [show read? Identifier (bytesOf identifier ++ rest) =
    (readSized (sized identifier.toBytes ++ rest) >>= fun read =>
      Identifier.ofBytes? read.1 >>= fun identifier => some (identifier, read.2)) from rfl,
    readSized_sized _ rest short]
  simp [Identifier.ofBytes?_toBytes]

theorem readable_date (date : Date) : Readable date := by
  intro rest
  have short : (Text.utf8 date.text).length < UInt64.size := by
    have bytes := Text.length_utf8_le date.text
    have characters := date.length_text_le
    have room : 64 < UInt64.size := by decide
    omega
  refine (readable_text short).first ?_
  simp [Date.parse?_text]

theorem readable_kinship (kinship : Kinship) : Readable kinship :=
  readPlace_place (by cases kinship <;> decide) (by decide)

theorem readable_origin (origin : Origin) : Readable origin :=
  readPlace_place (by cases origin <;> decide) (by decide)

theorem readable_status (status : Status) : Readable status :=
  readPlace_place (by cases status <;> decide) (by decide)

theorem readable_method (method : PaymentMethod) : Readable method :=
  readPlace_place (by cases method <;> decide) (by decide)

/-! ### Records -/

/-- The length of the text can be written. -/
def FitsText (text : String) : Prop := (Text.utf8 text).length < UInt64.size

instance (text : String) : Decidable (FitsText text) := inferInstanceAs (Decidable (_ < _))

theorem readable_beneficiary {beneficiary : Beneficiary} (name : FitsText beneficiary.name) :
    Readable beneficiary := by
  intro rest
  have written : bytesOf beneficiary ++ rest = bytesOf beneficiary.citizen ++
      (bytesOf beneficiary.name ++ (bytesOf beneficiary.birthDate ++ rest)) := by
    simp only [← List.append_assoc]
    rfl
  rw [written]
  exact (readable_identifier _).first <| (readable_text name).first <| (readable_date _).first rfl

theorem readable_requester (requester : Requester) : Readable requester := by
  intro rest
  have written : bytesOf requester ++ rest =
      bytesOf requester.citizen ++ (bytesOf requester.kinship ++ rest) := by
    simp only [← List.append_assoc]
    rfl
  have kinship : Readable requester.kinship := readable_option fun value _ => readable_kinship value
  rw [written]
  exact (readable_identifier _).first <| kinship.first rfl

theorem readable_payment {payment : Payment}
    (reference : ∀ text ∈ payment.reference, FitsText text) : Readable payment := by
  intro rest
  have written : bytesOf payment ++ rest = bytesOf payment.cents ++
      (bytesOf payment.method ++ (bytesOf payment.reference ++ rest)) := by
    simp only [← List.append_assoc]
    rfl
  have readable : Readable payment.reference :=
    readable_option fun text member => readable_text (reference text member)
  rw [written]
  exact (readable_word64 _).first <| (readable_method _).first <| readable.first rfl

/-- The lengths of the texts of the channel can be written. -/
def FitsChannel : PaymentChannel → Prop
  | .pix key => FitsText key
  | .bankAccount bank branch account => FitsText bank ∧ FitsText branch ∧ FitsText account

theorem readable_channel {channel : PaymentChannel} (fits : FitsChannel channel) :
    Readable channel := by
  intro rest
  cases channel with
  | pix key =>
      have written : bytesOf (PaymentChannel.pix key) ++ rest =
          lowBytes 4 0 ++ (bytesOf key ++ rest) := by
        rw [← List.append_assoc]
        rfl
      rw [written]
      refine first_of_readLow (by decide) ?_
      exact (readable_text fits).first rfl
  | bankAccount bank branch account =>
      obtain ⟨bankFits, branchFits, accountFits⟩ := fits
      have written : bytesOf (PaymentChannel.bankAccount bank branch account) ++ rest =
          lowBytes 4 1 ++ (bytesOf bank ++ (bytesOf branch ++ (bytesOf account ++ rest))) := by
        simp only [← List.append_assoc]
        rfl
      rw [written]
      refine first_of_readLow (by decide) ?_
      simp only [Nat.one_ne_zero, if_false, if_true]
      exact (readable_text bankFits).first <| (readable_text branchFits).first <|
        (readable_text accountFits).first rfl

theorem readable_summary {summary : PendencySummary} (description : FitsText summary.description) :
    Readable summary := by
  intro rest
  have written : bytesOf summary ++ rest =
      bytesOf summary.id ++ (bytesOf summary.description ++ rest) := by
    simp only [← List.append_assoc]
    rfl
  rw [written]
  exact (readable_identifier _).first <| (readable_text description).first rfl

end Binary

/-! ### Announcements -/

namespace EventPayload

open Binary

/-- The lengths of all texts and lists of the announcement can be written. -/
def Fits : EventPayload → Prop
  | .created benefitType beneficiary _ _ _ => FitsText benefitType ∧ FitsText beneficiary.name
  | .submitted _ => True
  | .pended justification pendencies _ => FitsText justification ∧
      pendencies.length < UInt64.size ∧ ∀ summary ∈ pendencies, FitsText summary.description
  | .approved _ gates => gates.length < UInt64.size ∧ ∀ gate ∈ gates, FitsText gate
  | .rejected justification => FitsText justification
  | .resubmitted _ => True
  | .released payment channel =>
      (∀ reference ∈ payment.reference, FitsText reference) ∧ FitsChannel channel
  | .completed deliveryNote => FitsText deliveryNote
  | .cancelled reason _ => FitsText reason

theorem readContent_contentBytes {payload : EventPayload} (fits : payload.Fits)
    (rest : List UInt8) :
    readContent payload.kindNumber (payload.contentBytes ++ rest) = some (payload, rest) := by
  cases payload with
  | created benefitType beneficiary requester origin routeRevision =>
      simp only [contentBytes, List.append_assoc]
      exact (readable_text fits.1).first <| (readable_beneficiary fits.2).first <|
        (readable_requester _).first <| (readable_origin _).first <| (readable_word32 _).first rfl
  | submitted status => exact (readable_status _).first rfl
  | pended justification pendencies cycle =>
      obtain ⟨text, short, descriptions⟩ := fits
      have readable : Readable pendencies := readable_list short fun summary member =>
        readable_summary (descriptions summary member)
      simp only [contentBytes, List.append_assoc]
      exact (readable_text text).first <| readable.first <| (readable_word32 _).first rfl
  | approved user gates =>
      have readable : Readable gates := readable_list fits.1 fun gate member =>
        readable_text (fits.2 gate member)
      simp only [contentBytes, List.append_assoc]
      exact (readable_identifier _).first <| readable.first rfl
  | rejected justification => exact (readable_text fits).first rfl
  | resubmitted cycle => exact (readable_word32 _).first rfl
  | released payment channel =>
      simp only [contentBytes, List.append_assoc]
      exact (readable_payment fits.1).first <| (readable_channel fits.2).first rfl
  | completed deliveryNote => exact (readable_text fits).first rfl
  | cancelled reason source =>
      simp only [contentBytes, List.append_assoc]
      exact (readable_text fits).first <| (readable_status _).first rfl

theorem readable {payload : EventPayload} (fits : payload.Fits) : Readable payload := by
  intro rest
  have small : payload.kindNumber < Nat.pow 256 4 := by cases payload <;> simp [kindNumber]
  have written : bytesOf payload ++ rest =
      lowBytes 4 payload.kindNumber ++ (payload.contentBytes ++ rest) := by
    rw [← List.append_assoc]
    rfl
  rw [written]
  exact first_of_readLow small (readContent_contentBytes fits rest)

end EventPayload

/-- The envelope with bytes behind the announcement. -/
def Envelope.extendedBy (envelope : Envelope) (behind : List UInt8) : Envelope :=
  { envelope with data := envelope.data ++ behind }

@[simp]
theorem Envelope.extendedBy_nil (envelope : Envelope) : envelope.extendedBy [] = envelope := by
  simp [extendedBy]

namespace Event

/-- An announcement is read back from its envelope, whatever bytes follow it. -/
theorem event?_extendedBy {event : Event} (fits : event.payload.Fits) (behind : List UInt8) :
    (event.envelope.extendedBy behind).event? = .ok event := by
  have read : Binary.read? EventPayload (event.envelope.extendedBy behind).data =
      some (event.payload, behind) := EventPayload.readable fits behind
  have payload : (event.envelope.extendedBy behind).payload? = .ok event.payload := by
    simp only [Envelope.payload?, read]
    exact if_pos rfl
  have request : requestOfStream? (event.envelope.extendedBy behind).stream = some event.request :=
    requestOfStream?_requestStream event.request
  simp only [Envelope.event?, payload, request]
  rfl

theorem event?_envelope {event : Event} (fits : event.payload.Fits) :
    event.envelope.event? = .ok event := by
  have read := event?_extendedBy fits []
  rwa [Envelope.extendedBy_nil] at read

/-- Announcements with the same envelopes are the same. -/
theorem eq_of_map_envelope {first second : List Event}
    (firstFits : ∀ event ∈ first, event.payload.Fits)
    (secondFits : ∀ event ∈ second, event.payload.Fits)
    (same : first.map envelope = second.map envelope) : first = second := by
  have read (events : List Event) (fits : ∀ event ∈ events, event.payload.Fits) :
      (events.map envelope).map Envelope.event? = events.map Except.ok := by
    rw [List.map_map]
    exact List.map_congr_left fun event member => event?_envelope (fits event member)
  have sameRead := congrArg (List.map Envelope.event?) same
  rw [read first firstFits, read second secondFits] at sameRead
  exact (List.map_inj_right fun _ _ => Except.ok.inj).mp sameRead

end Event

/-- No announcement begins with the bytes of another one. -/
theorem EventPayload.eq_of_prefix {first second : EventPayload} (firstFits : first.Fits)
    (secondFits : second.Fits) (begins : Binary.bytesOf first <+: Binary.bytesOf second) :
    first = second := by
  obtain ⟨rest, continued⟩ := begins
  have asFirst := readable firstFits rest
  have asSecond := readable secondFits []
  rw [continued] at asFirst
  rw [List.append_nil, asFirst] at asSecond
  exact congrArg Prod.fst (Option.some.inj asSecond)

/-- An announcement whose lengths can be written, as all lengths in memory can,
is read back from its envelope, also when bytes follow. So no other one has this
envelope, and no other payload begins with the bytes of this one. -/
theorem envelope_tells_its_event {event : Event} (fits : event.payload.Fits) :
    event.envelope.event? = .ok event ∧
      (∀ behind, (event.envelope.extendedBy behind).event? = .ok event) ∧
      ∀ other : Event, other.payload.Fits →
        (other.envelope = event.envelope → other = event) ∧
        (event.envelope.data <+: other.envelope.data → event.payload = other.payload) := by
  refine ⟨Event.event?_envelope fits, Event.event?_extendedBy fits, fun other otherFits => ?_⟩
  refine ⟨fun same => ?_, EventPayload.eq_of_prefix fits otherFits⟩
  have read := Event.event?_envelope otherFits
  rw [same, Event.event?_envelope fits] at read
  exact (Except.ok.inj read).symm

namespace Sample

/-- Two items are raised. -/
def raising : Event :=
  ⟨.numbered 12, .numbered 5, 3, .numbered 3, .newYear2025,
    .pended "não legível" [⟨.numbered 10, "proof of address"⟩, ⟨.numbered 11, ""⟩] 1⟩

/-- The same in the next cycle. -/
def raisingAgain : Event := { raising with payload := .pended "não legível" [] 2 }

end Sample

/-- Two items are told with bytes behind them, and told apart from no items. -/
theorem raising_is_told :
    Sample.raising.payload.Fits ∧ Sample.raisingAgain.payload.Fits ∧
      (Sample.raising.envelope.extendedBy [0, 255]).event? = .ok Sample.raising ∧
      Sample.raisingAgain.envelope ≠ Sample.raising.envelope ∧
      ¬ Sample.raising.envelope.data <+: Sample.raisingAgain.envelope.data := by
  have fits : Sample.raising.payload.Fits := by
    refine ⟨by decide +kernel, by decide +kernel, ?_⟩
    decide +kernel
  have againFits : Sample.raisingAgain.payload.Fits :=
    ⟨by decide +kernel, by decide +kernel, by decide +kernel⟩
  obtain ⟨-, extended, apart⟩ := envelope_tells_its_event fits
  obtain ⟨own, begins⟩ := apart Sample.raisingAgain againFits
  refine ⟨fits, againFits, extended _, fun same => ?_, fun front => ?_⟩
  · exact absurd (congrArg Event.payload (own same)) (by decide)
  · exact absurd (begins front) (by decide)

end BenefitCasework
