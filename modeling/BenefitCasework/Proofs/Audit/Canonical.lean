import BenefitCasework.Audit.Entry
import BenefitCasework.Proofs.Audit.Differences
import BenefitCasework.Proofs.Calendar.InstantText
import BenefitCasework.Proofs.Json.Unambiguous
import BenefitCasework.Proofs.Stream

/-!
Contract: the canonical bytes of an audit entry tell all of it but the seal, at the
moment that its text shows.

Owns:
- `JsonForm.Faithful`, written forms that tell their content even if only the
  sorted form is known, for each type of which an entry is made but that of moments;
- `AuditEntry.IsExact`, the entries whose changes hold no floating-point number;
- `AuditEntry.SameButSeal`, and `AuditEntry.Matches` for entries as they are shown;
- `AuditEntry.canonicalBytes_eq_iff` and `canonical_bytes_tell_the_entry`.

Does not own: digests of those bytes.
-/

namespace BenefitCasework

/-- Contents whose written forms are sorted alike are equal. -/
def JsonForm.Faithful (α : Type) [JsonForm α] : Prop :=
  Function.Injective fun content : α => (Json.of content).sorted

namespace Json

/-- The fields of records that are sorted alike are sorted alike. -/
theorem sorted_eq_of_sorted {left right : JsonFields}
    (same : (object left).sorted = (object right).sorted) (name : String) {value other : Json}
    (found : lookup name left = some value) (foundThere : lookup name right = some other) :
    value.sorted = other.sorted := by
  have looked := congrArg (lookup name) (Json.object.inj same)
  rw [lookup_sortedFields, lookup_sortedFields, found, foundThere] at looked
  exact Option.some.inj looked

/-- What is written faithfully into them is the same. -/
theorem content_eq_of_sorted {α : Type} [JsonForm α] {left right : JsonFields}
    (same : (object left).sorted = (object right).sorted) (faithful : JsonForm.Faithful α)
    (name : String) {content other : α} (found : lookup name left = some (of content))
    (foundThere : lookup name right = some (of other)) : content = other :=
  faithful (sorted_eq_of_sorted same name found foundThere)

theorem sortedItems_eq_map (items : List Json) : sortedItems items = items.map sorted := by
  induction items with
  | nil => rfl
  | cons item rest inductionHypothesis => rw [sortedItems, inductionHypothesis, List.map_cons]

/-- Fields in order stay where they are. -/
theorem sortedFields_eq_map {fields : JsonFields} (ordered : Ordered fields) :
    sortedFields fields = fields.map fun field => (field.1, field.2.sorted) := by
  induction fields with
  | nil => rfl
  | cons head rest inductionHypothesis =>
      obtain ⟨name, value⟩ := head
      obtain ⟨smallest, orderedRest⟩ := List.pairwise_cons.mp ordered
      rw [sortedFields, inductionHypothesis orderedRest, List.map_cons]
      apply put_of_ordered
      refine List.pairwise_cons.mpr ⟨?_, List.pairwise_map.mpr orderedRest⟩
      intro field member
      obtain ⟨present, there, rfl⟩ := List.mem_map.mp member
      exact smallest present there

end Json

/-! ### Faithful forms -/

namespace JsonForm

theorem faithful_string : Faithful String := fun _ _ same => Json.string.inj same

theorem faithful_word64 : Faithful UInt64 := fun _ _ same =>
  UInt64.toNat_inj.mp (Int.ofNat_inj.mp (Json.integer.inj same))

theorem faithful_identifier : Faithful Identifier := fun _ _ same =>
  Identifier.text_injective (Json.string.inj same)

/-- The form of a moment tells what it shows. -/
theorem shown_eq_of_sorted {left right : Instant}
    (same : (Json.of left).sorted = (Json.of right).sorted) : left.shown = right.shown :=
  Instant.text_eq_iff.mp (Json.string.inj same)

/-- An absent text is not taken for any text, not even for an empty one. -/
theorem faithful_optionalString : Faithful (Option String) := by
  intro left right same
  cases left with
  | none =>
      cases right with
      | none => rfl
      | some right => cases same
  | some left =>
      cases right with
      | none => cases same
      | some right => exact congrArg some (faithful_string same)

theorem role_eq_of_name {left right : Role} (same : left.name = right.name) : left = right := by
  cases left <;> cases right <;> first | rfl | (simp [Role.name] at same)

theorem faithful_roles : Faithful RoleSet := by
  intro left right same
  have written (roles : RoleSet) : (Json.of roles).sorted =
      .array (roles.toList.map fun role => .string role.name) := by
    change Json.array (Json.sortedItems (roles.toList.map Json.of)) = _
    rw [Json.sortedItems_eq_map, List.map_map]
    rfl
  simp only [written, Json.array.injEq] at same
  have listed : left.toList = right.toList :=
    (List.map_inj_right fun _ _ equal => role_eq_of_name (Json.string.inj equal)).mp same
  have held (role : Role) : left.holds role = right.holds role := by
    rw [Bool.eq_iff_iff, ← RoleSet.mem_toList, ← RoleSet.mem_toList, listed]
  obtain ⟨admin, manager, reviewer, technician⟩ := left
  rw [RoleSet.mk.injEq]
  exact ⟨held .admin, held .manager, held .technicalReviewer, held .unitTechnician⟩

theorem faithful_actor : Faithful Actor := by
  intro left right same
  have user := Json.content_eq_of_sorted same faithful_identifier "user_id" rfl rfl
  have roles := Json.content_eq_of_sorted same faithful_roles "roles" rfl rfl
  have unit := Json.content_eq_of_sorted same faithful_identifier "unit_id" rfl rfl
  exact (Actor.mk.injEq ..).mpr ⟨user, roles, unit⟩

theorem faithful_caller : Faithful Caller := by
  intro left right same
  have actor := Json.content_eq_of_sorted same faithful_actor "actor" rfl rfl
  have address := Json.content_eq_of_sorted same faithful_optionalString "ip_address" rfl rfl
  have program := Json.content_eq_of_sorted same faithful_optionalString "user_agent" rfl rfl
  have correlation := Json.content_eq_of_sorted same faithful_identifier "correlation_id" rfl rfl
  exact (Caller.mk.injEq ..).mpr ⟨actor, address, program, correlation⟩

/-- Of a change both values are kept sorted, so that sorting loses nothing. -/
theorem faithful_change : Faithful FieldChange := by
  intro left right same
  have value (name : String) := congrArg (Json.lookup name) (Json.object.inj same)
  simp only [Json.lookup_sortedFields] at value
  have before : left.before.sorted = right.before.sorted := Option.some.inj (value "before")
  have after : left.after.sorted = right.after.sorted := Option.some.inj (value "after")
  rw [left.before_sorted, right.before_sorted] at before
  rw [left.after_sorted, right.after_sorted] at after
  exact (FieldChange.mk.injEq ..).mpr ⟨before, after⟩

theorem faithful_changes : Faithful Changes := by
  intro left right same
  have written (changes : Changes) : (Json.of changes).sorted =
      .object (changes.fields.map fun field => (field.1, (Json.of field.2).sorted)) := by
    have ordered : Json.Ordered (changes.fields.map fun field => (field.1, Json.of field.2)) :=
      List.pairwise_map.mpr changes.ordered
    change Json.object (Json.sortedFields _) = _
    rw [Json.sortedFields_eq_map ordered, List.map_map]
    rfl
  simp only [written, Json.object.injEq] at same
  have fields : left.fields = right.fields := by
    refine (List.map_inj_right fun field other equal => ?_).mp same
    obtain ⟨name, change⟩ := Prod.mk.inj equal
    exact Prod.ext name (faithful_change change)
  exact (Changes.mk.injEq ..).mpr fields

end JsonForm

/-! ### Entries -/

namespace AuditEntry

/-- No value before or after a change holds a floating-point number. -/
def IsExact (entry : AuditEntry) : Prop :=
  ∀ field ∈ entry.changes.fields,
    field.2.before.isExact = true ∧ field.2.after.isExact = true

/-- The entries differ in their seal at most. -/
def SameButSeal (left right : AuditEntry) : Prop := { left with sealedBy := right.sealedBy } = right

/-- The entry at the moment that its text shows. -/
def shown (entry : AuditEntry) : AuditEntry := { entry with moment := entry.moment.shown }

/-- As they are shown, the entries differ in their seal at most. -/
def Matches (left right : AuditEntry) : Prop := left.shown.SameButSeal right.shown

instance (left right : AuditEntry) : Decidable (left.SameButSeal right) := by
  unfold SameButSeal
  infer_instance

theorem Matches.previousHash {left right : AuditEntry} (same : left.Matches right) :
    left.previousHash = right.previousHash := by
  unfold Matches SameButSeal at same
  exact (AuditEntry.mk.inj same).2.2.2.2.2.2.2.2.1

/-- Only what a moment shows matters. -/
theorem matches_withMoment {entry : AuditEntry} {moment : Instant}
    (same : moment.shown = entry.moment.shown) : Matches { entry with moment := moment } entry := by
  simp only [Matches, SameButSeal, shown, same]

/-- Without a leap fraction in the middle of a minute, entries are what they show. -/
theorem Matches.sameButSeal {left right : AuditEntry} (same : left.Matches right)
    (leftRegular : left.moment.Regular) (rightRegular : right.moment.Regular) :
    left.SameButSeal right := by
  have leftShown : left.shown = left := by rw [shown, Instant.shown_of_regular leftRegular]
  have rightShown : right.shown = right := by rw [shown, Instant.shown_of_regular rightRegular]
  rwa [Matches, leftShown, rightShown] at same

theorem isExact_roles (roles : RoleSet) : (Json.of roles).isExact = true := by
  change Json.areExact (roles.toList.map Json.of) = true
  induction roles.toList with
  | nil => rfl
  | cons role rest inductionHypothesis => exact inductionHypothesis

theorem isExact_option (content : Option String) : (Json.of content).isExact = true := by
  cases content <;> rfl

theorem isExact_changes {entry : AuditEntry} (exact : entry.IsExact) :
    (Json.of entry.changes).isExact = true := by
  refine Json.haveExact_iff.mpr fun field member => ?_
  obtain ⟨change, present, rfl⟩ := List.mem_map.mp member
  obtain ⟨before, after⟩ := exact change present
  change (change.2.before.isExact && (change.2.after.isExact && true)) = true
  rw [before, after]
  rfl

theorem isExact_content {entry : AuditEntry} (exact : entry.IsExact) :
    (Json.object entry.content).isExact = true := by
  have caller : (Json.of entry.caller).isExact = true := by
    have roles := isExact_roles entry.caller.actor.roles
    have address := isExact_option entry.caller.address
    have program := isExact_option entry.caller.program
    simp [Json.of, JsonForm.write, Json.isExact, Json.haveExact] at roles address program ⊢
    exact ⟨roles, address, program⟩
  have changes := isExact_changes exact
  have previous := isExact_option entry.previousHash
  refine Json.haveExact_iff.mpr fun field member => ?_
  simp only [content, List.mem_cons, List.not_mem_nil, or_false] at member
  rcases member with rfl | rfl | rfl | rfl | rfl | rfl | rfl | rfl | rfl
  · rfl
  · rfl
  · rfl
  · rfl
  · rfl
  · exact caller
  · exact changes
  · rfl
  · exact previous

section Content

variable {left right : AuditEntry}

theorem matches_of_content
    (same : (Json.object left.content).sorted = (Json.object right.content).sorted) :
    left.Matches right := by
  have id := Json.content_eq_of_sorted same JsonForm.faithful_identifier "id" rfl rfl
  have sequence := Json.content_eq_of_sorted same JsonForm.faithful_word64 "sequence" rfl rfl
  have subjectType := Json.content_eq_of_sorted same JsonForm.faithful_string "subject_type" rfl rfl
  have subjectId := Json.content_eq_of_sorted same JsonForm.faithful_string "subject_id" rfl rfl
  have action := Json.content_eq_of_sorted same JsonForm.faithful_string "action" rfl rfl
  have caller := Json.content_eq_of_sorted same JsonForm.faithful_caller "actor" rfl rfl
  have changes := Json.content_eq_of_sorted same JsonForm.faithful_changes "changes" rfl rfl
  have moment :=
    JsonForm.shown_eq_of_sorted (Json.sorted_eq_of_sorted same "recorded_at" rfl rfl)
  have previousHash :=
    Json.content_eq_of_sorted same JsonForm.faithful_optionalString "previous_hash" rfl rfl
  exact (AuditEntry.mk.injEq ..).mpr
    ⟨id, sequence, subjectType, subjectId, action, caller, changes, moment, previousHash, rfl⟩

/-- An entry is written as it is shown. -/
theorem content_shown (entry : AuditEntry) : entry.shown.content = entry.content := by
  have moment : Json.of entry.moment.shown = Json.of entry.moment :=
    congrArg Json.string entry.moment.text_shown
  simp only [content, shown, moment]

end Content

end AuditEntry

theorem Text.utf8_injective : Function.Injective Text.utf8 := by
  intro left right same
  have read := congrArg Text.ofUtf8? same
  rw [Text.ofUtf8?_utf8, Text.ofUtf8?_utf8] at read
  exact Option.some.inj read

namespace AuditEntry

/-- The canonical bytes tell everything that is shown but the seal, and nothing else. -/
theorem canonicalBytes_eq_iff {left right : AuditEntry} (leftExact : left.IsExact)
    (rightExact : right.IsExact) :
    left.canonicalBytes = right.canonicalBytes ↔ left.Matches right := by
  constructor
  · intro same
    exact matches_of_content (Json.sorted_eq_of_canonicalText (isExact_content leftExact)
      (isExact_content rightExact) (Text.utf8_injective same))
  · intro same
    have content : left.content = right.content := by
      unfold Matches SameButSeal at same
      rw [← left.content_shown, ← right.content_shown, ← same]
      rfl
    simp only [canonicalBytes, canonicalText, content]

end AuditEntry

/-- Two entries without floating-point numbers have the same canonical bytes exactly
when they differ, as they are shown, in their seal alone. Where no leap fraction stands
in the middle of a minute, entries are shown as they are. -/
theorem canonical_bytes_tell_the_entry {left right : AuditEntry} (leftExact : left.IsExact)
    (rightExact : right.IsExact) :
    (left.canonicalBytes = right.canonicalBytes ↔ left.Matches right) ∧
      (left.Matches right → left.moment.Regular → right.moment.Regular →
        left.SameButSeal right) :=
  ⟨AuditEntry.canonicalBytes_eq_iff leftExact rightExact, AuditEntry.Matches.sameButSeal⟩

namespace Sample

/-- Who calls in the samples of the audit log. -/
def clerk : Caller := ⟨⟨.numbered 1, .ofList [.manager], .numbered 2⟩, none, some "", .numbered 3⟩

/-- A change whose values look like the text around them. -/
def oddChanges : Changes :=
  .ofList [("note", .of .null (.string "\",\"after\":null\x7d")),
    ("items", .of (.array []) (.array [.integer 1, .object [("b", .null), ("a", .array [.null])]]))]

def entry : AuditEntry :=
  ⟨.numbered 7, 1, "benefit_request", "5", "submit", clerk, oddChanges, .newYear2025, none,
    .unsigned "digest"⟩

/-- The entry at another moment. -/
def entryAt (moment : Instant) : AuditEntry := { entry with moment := moment }

/-- Half a second behind the end of a second in the middle of a minute, as a leap fraction. -/
def strayLeap : Instant := ⟨Instant.newYear2025.date, 43230, 1500000000, by decide⟩

/-- The moment that is shown in its place. -/
def halfBehind : Instant := ⟨Instant.newYear2025.date, 43231, 500000000, by decide⟩

theorem isExact_entryAt (moment : Instant) : (entryAt moment).IsExact := by
  unfold AuditEntry.IsExact
  have exact : ∀ field ∈ oddChanges.fields,
      field.2.before.isExact = true ∧ field.2.after.isExact = true := by decide
  exact exact

end Sample

/-- An entry with a leap fraction in the middle of a minute has the canonical bytes of
another one. -/
theorem stray_leap_shares_its_bytes :
    let stray := Sample.entryAt Sample.strayLeap
    let shown := Sample.entryAt Sample.halfBehind
    stray.IsExact ∧ shown.IsExact ∧ stray.canonicalBytes = shown.canonicalBytes ∧
      stray.moment ≠ shown.moment ∧ ¬ stray.SameButSeal shown := by
  intro stray shown
  have exact := Sample.isExact_entryAt
  have apart : stray.moment ≠ shown.moment := by decide
  have bytes : stray.canonicalBytes = shown.canonicalBytes :=
    (AuditEntry.canonicalBytes_eq_iff (exact _) (exact _)).mpr rfl
  exact ⟨exact _, exact _, bytes, apart, fun same => apart (congrArg AuditEntry.moment same)⟩

/-- An entry that is sealed anew keeps its canonical bytes, and they tell it. -/
theorem resealed_entry_is_told :
    let resealed := { Sample.entry with sealedBy := .signed "audit" "signature" }
    Sample.entry.IsExact ∧ Sample.entry.canonicalBytes = resealed.canonicalBytes ∧
      Sample.entry.SameButSeal resealed := by
  intro resealed
  have exact : Sample.entry.IsExact := Sample.isExact_entryAt _
  have bytes : Sample.entry.canonicalBytes = resealed.canonicalBytes := rfl
  obtain ⟨tells, regular⟩ := @canonical_bytes_tell_the_entry Sample.entry resealed exact exact
  exact ⟨exact, bytes, regular (tells.mp bytes) (by decide) (by decide)⟩

end BenefitCasework
