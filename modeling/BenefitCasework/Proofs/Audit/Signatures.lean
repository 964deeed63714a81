import BenefitCasework.Proofs.Audit.Canonical
import BenefitCasework.Proofs.Audit.Custody

/-!
Contract: one text alone is the signature of some bytes, and it tells the entry as it
is shown.

Owns:
- `Recorder.sign_of_recorded`, where the signature of a recorded entry comes from;
- `AuditEntry.canonicalBytes_ne`, that entries under one seal differ in their bytes if
  they are shown differently;
- `signature_tells_the_entry`.

A changed entry passes under its old signature only if the keyed digest is the same for
two different texts. Whether there are such texts is not said. Does not own: the entries
that are not signed.
-/

namespace BenefitCasework

/-! ### Signed entries -/

namespace Recorder

variable {entry : AuditEntry} {keyId text : String}

/-- What is recorded with a signature has it from the signer. -/
theorem sign_of_recorded {recorder : Recorder} {draft : AuditDraft} {id : Identifier}
    (recorded : (recorder.record draft id).2 = .ok entry)
    (sealedBy : entry.sealedBy = .signed keyId text) :
    keyId = recorder.signer.keyId ∧ recorder.signer.sign entry.canonicalBytes = .ok text := by
  cases refused : recorder.refusalOf? id with
  | some reason =>
      rw [(record_of_refusal refused draft).1] at recorded
      cases recorded
  | none =>
      rw [(record_of_room refused draft).1] at recorded
      cases recorded
      rw [sealedBy_nextEntry, sealFor] at sealedBy
      split at sealedBy
      · rename_i signature signed
        cases sealedBy
        exact ⟨rfl, signed⟩
      · cases sealedBy

/-- A look at an entry is a look at its seal. -/
theorem verify_of_found {recorder : Recorder} {id : Identifier}
    (found : recorder.log.get? id = some entry) :
    recorder.verify id = .ok (verifyEntry recorder.signer entry) := by
  rw [verify, found]

end Recorder

/-- Exact entries with one seal that are not shown alike have different canonical bytes. -/
theorem AuditEntry.canonicalBytes_ne {left right : AuditEntry} (leftExact : left.IsExact)
    (rightExact : right.IsExact) (sameSeal : left.sealedBy = right.sealedBy)
    (different : left.shown ≠ right.shown) : left.canonicalBytes ≠ right.canonicalBytes := by
  intro sameBytes
  have told : left.Matches right := (canonicalBytes_eq_iff leftExact rightExact).mp sameBytes
  have sealedAlike : right.shown.sealedBy = left.shown.sealedBy := sameSeal.symm
  rw [Matches, SameButSeal, sealedAlike] at told
  exact different told

/-- For a key that is not empty, one text alone is the signature of some bytes: it is
what the signer writes, and every other text is refused, strict or not. An empty key
signs nothing, and fails on every strict text. For an entry that was recorded with a
signature, a look with the same signer refuses whatever comes under another name of
the key, the same content with another signature, and under the same seal all content that is
shown differently, unless the keyed digest is the same for two different texts; what it
accepts as signed is what the signer would sign like that. -/
theorem signature_tells_the_entry (keyId : String) (key : List UInt8) :
    let signer : Signer := ⟨keyId, some key⟩
    (key ≠ [] → ∀ bytes, ∃ signature, signer.sign bytes = .ok signature ∧
      ∀ text, signer.verify bytes text = .ok (decide (text = signature))) ∧
    (key = [] → ∀ bytes, signer.sign bytes = .error .missingKey ∧
      ∀ text : String,
        (Text.Base64.Strict text.toList → signer.verify bytes text = .error .missingKey) ∧
        (¬ Text.Base64.Strict text.toList → signer.verify bytes text = .ok false)) ∧
    ∀ (recorder : Recorder) (draft : AuditDraft) (id : Identifier) (entry : AuditEntry)
      (name signature : String),
      recorder.signer = signer → (recorder.record draft id).2 = .ok entry →
      entry.sealedBy = .signed name signature →
      ∀ (later : Recorder) (looked : Identifier) (changed : AuditEntry),
        later.signer = signer → later.log.get? looked = some changed →
        (∀ other text, changed.sealedBy = .signed other text → other ≠ name →
          later.verify looked = .ok .invalid) ∧
        (∀ text, text ≠ signature → changed = { entry with sealedBy := .signed name text } →
          later.verify looked = .ok .invalid) ∧
        (changed.sealedBy = entry.sealedBy → entry.IsExact → changed.IsExact →
          changed.shown ≠ entry.shown → later.verify looked = .ok .invalid ∨
            (changed.canonicalBytes ≠ entry.canonicalBytes ∧
              Digest.Hmac.authenticate key changed.canonicalBytes =
                Digest.Hmac.authenticate key entry.canonicalBytes)) ∧
        ∀ other text, changed.sealedBy = .signed other text →
          (later.verify looked = .ok .valid ↔
            other = name ∧ signer.sign changed.canonicalBytes = .ok text) := by
  intro signer
  refine ⟨fun present bytes => ?_, fun empty bytes => ?_, ?_⟩
  · have usable : signer.usableKey = .ok key := by
      cases key with
      | nil => exact absurd rfl present
      | cons first rest => rfl
    exact ⟨_, Signer.sign_of_usable usable bytes, Signer.verify_of_usable usable bytes⟩
  · have unusable : signer.usableKey = .error .missingKey := by
      simp only [signer, empty, Signer.usableKey]
    exact ⟨Signer.sign_of_unusable unusable bytes,
      fun text => ⟨Signer.verify_of_strict unusable, Signer.verify_of_not_strict⟩⟩
  · intro recorder draft id entry name signature sameSigner recorded sealedBy later looked changed
      sameLater found
    obtain ⟨rfl, signed⟩ := Recorder.sign_of_recorded recorded sealedBy
    rw [sameSigner] at signed sealedBy ⊢
    rw [Recorder.verify_of_found found, sameLater]
    refine ⟨?_, ?_, ?_, ?_⟩
    · intro other text resealed different
      exact congrArg Except.ok
        (Recorder.verifyEntry_of_misfit resealed fun same => absurd same different)
    · rintro text different rfl
      refine congrArg Except.ok (Recorder.verifyEntry_of_misfit rfl fun _ resigned => ?_)
      exact different (Except.ok.inj (resigned.symm.trans signed))
    · intro sameSeal entryExact changedExact different
      by_cases same : signer.sign changed.canonicalBytes = .ok signature
      · exact .inr ⟨AuditEntry.canonicalBytes_ne changedExact entryExact sameSeal different,
          Signer.authenticate_eq_of_sign same signed⟩
      · have resealed : changed.sealedBy = .signed signer.keyId signature := sameSeal.trans sealedBy
        exact .inl (congrArg Except.ok (Recorder.verifyEntry_of_misfit resealed fun _ => same))
    · intro other text resealed
      rw [Except.ok.injEq]
      exact Recorder.verifyEntry_eq_valid_iff resealed

namespace Sample

/-- The first entry of a log, signed. -/
def signedEntry : AuditEntry := (Recorder.start [] auditor).nextEntry draft (.numbered 1)

/-- A draft with a leap fraction in the middle of a minute. -/
def strayDraft : AuditDraft := { draft with moment := strayLeap }

def strayEntry : AuditEntry := (Recorder.start [] auditor).nextEntry strayDraft (.numbered 1)

/-- Somebody has put one entry in the place of all others. -/
def tampered (entry : AuditEntry) : Recorder := .start [entry] auditor

end Sample

/-- A signed entry with a leap fraction in the middle of a minute is still found valid
when the moment that it shows is put in its place. -/
theorem stray_leap_passes_under_its_signature :
    let changed := { Sample.strayEntry with moment := Sample.halfBehind }
    ((Recorder.start [] Sample.auditor).record Sample.strayDraft (.numbered 1)).2 =
        .ok Sample.strayEntry ∧
      (∃ signature, Sample.strayEntry.sealedBy = .signed "audit-1" signature) ∧
      Sample.strayEntry.IsExact ∧ changed.IsExact ∧
      changed.moment ≠ Sample.strayEntry.moment ∧
      changed.canonicalBytes = Sample.strayEntry.canonicalBytes ∧
      (Sample.tampered changed).verify (.numbered 1) = .ok .valid := by
  intro changed
  have usable : Sample.auditor.usableKey = .ok [7, 7, 7] := rfl
  obtain ⟨signature, signed⟩ :
      ∃ signature, Sample.auditor.sign Sample.strayEntry.canonicalBytes = .ok signature :=
    ⟨_, Signer.sign_of_usable usable _⟩
  have sealedBy : Sample.strayEntry.sealedBy = .signed "audit-1" signature := by
    have closed : Sample.strayEntry.sealedBy =
        Recorder.sealFor Sample.auditor Sample.strayEntry := rfl
    rw [closed, Recorder.sealFor, signed]
    rfl
  have exact : Sample.strayEntry.IsExact := Sample.isExact_entryAt Sample.strayLeap
  have changedExact : changed.IsExact := Sample.isExact_entryAt Sample.halfBehind
  have shown : Sample.halfBehind.shown = Sample.strayEntry.moment.shown := rfl
  have bytes : changed.canonicalBytes = Sample.strayEntry.canonicalBytes :=
    (AuditEntry.canonicalBytes_eq_iff changedExact exact).mpr (AuditEntry.matches_withMoment shown)
  have apart : changed.moment ≠ Sample.strayEntry.moment :=
    (by decide : Sample.halfBehind ≠ Sample.strayLeap)
  have found : (Sample.tampered changed).log.get? (.numbered 1) = some changed := rfl
  have sameSeal : changed.sealedBy = .signed "audit-1" signature := sealedBy
  have signedAlike : Sample.auditor.sign changed.canonicalBytes = .ok signature := by
    rw [bytes, signed]
  have valid : Recorder.verifyEntry Sample.auditor changed = .valid :=
    Recorder.verifyEntry_of_fit sameSeal rfl signedAlike
  exact ⟨rfl, ⟨signature, sealedBy⟩, exact, changedExact, apart, bytes,
    (Recorder.verify_of_found found).trans (congrArg Except.ok valid)⟩

/-- The key has another name, the signature has a blank behind it, or the action is another
one. -/
theorem tampering_is_told :
    let retold := { Sample.signedEntry with action := "cancel" }
    ∃ signature, Sample.signedEntry.sealedBy = .signed "audit-1" signature ∧
      (Sample.tampered { retold with sealedBy := .signed "audit-2" signature }).verify
        (.numbered 1) = .ok .invalid ∧
      (Sample.tampered { Sample.signedEntry with
        sealedBy := .signed "audit-1" (signature ++ " ") }).verify (.numbered 1) = .ok .invalid ∧
      ((Sample.tampered retold).verify (.numbered 1) = .ok .invalid ∨
        Digest.Hmac.authenticate [7, 7, 7] retold.canonicalBytes =
          Digest.Hmac.authenticate [7, 7, 7] Sample.signedEntry.canonicalBytes) := by
  intro retold
  obtain ⟨signs, -, tells⟩ := signature_tells_the_entry "audit-1" [7, 7, 7]
  obtain ⟨signature, signed, -⟩ := signs (by decide) Sample.signedEntry.canonicalBytes
  have sealedBy : Sample.signedEntry.sealedBy = .signed "audit-1" signature := by
    have closed : Sample.signedEntry.sealedBy =
        Recorder.sealFor ⟨"audit-1", some [7, 7, 7]⟩ Sample.signedEntry := rfl
    rw [closed, Recorder.sealFor, signed]
  have recorded : ((Recorder.start [] Sample.auditor).record Sample.draft (.numbered 1)).2 =
      .ok Sample.signedEntry := rfl
  have exact : Sample.signedEntry.IsExact := by
    unfold AuditEntry.IsExact
    decide
  have told (changed : AuditEntry) (same : changed.id = .numbered 1) :=
    tells _ Sample.draft (.numbered 1) Sample.signedEntry "audit-1" signature rfl recorded sealedBy
      (Sample.tampered changed) (.numbered 1) changed rfl
      (by simp [Sample.tampered, Recorder.start, AuditLog.get?, same])
  refine ⟨signature, sealedBy, ?_, ?_, ?_⟩
  · exact (told { retold with sealedBy := .signed "audit-2" signature } rfl).1 "audit-2" signature
      rfl (by decide)
  · refine (told { Sample.signedEntry with sealedBy := .signed "audit-1" (signature ++ " ") }
      rfl).2.1 (signature ++ " ") ?_ rfl
    intro same
    have longer := congrArg String.length same
    simp at longer
  · have different : retold.shown ≠ Sample.signedEntry.shown := fun same =>
      absurd (congrArg AuditEntry.action same) (by decide : "cancel" ≠ "submit")
    exact ((told retold rfl).2.2.1 rfl exact exact different).imp_right And.right

end BenefitCasework
