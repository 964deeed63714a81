import BenefitCasework.Proofs.Audit.Custody

/-!
Contract: what is taken out of a chain, or put into another order, shows at the
entry where the chain first departs from what it was.

Owns:
- `AuditLog.firstMisplaced_append`, how a look goes on behind a part of a chain;
- `AuditLog.DepartsAt`, the first place at which some entries are not those of a
  log;
- `AuditLog.Recurs`, two entries with one content hash, so far apart that their
  numbers are one again;
- `Linked.broken_of_departs` and `selections_are_found_out`.

Entries are numbered with machine words. Where the numbers do not tell two places
apart, the content hashes in front of them have to. Does not own: entries that were
rewritten.
-/

namespace BenefitCasework

namespace AuditLog

/-- Behind a part without misplaced entries the look goes on with its last hash. -/
theorem firstMisplaced_append (place : Nat) (previous : Option String) (front back : AuditLog) :
    firstMisplaced place previous (front ++ back) =
      (firstMisplaced place previous front).or
        (firstMisplaced (place + front.length) (hashBefore previous front front.length) back) := by
  induction front generalizing place previous with
  | nil => rfl
  | cons first rest inductionHypothesis =>
      rw [List.cons_append, firstMisplaced, firstMisplaced]
      split
      · have further : place + (first :: rest).length = place + 1 + rest.length := by
          rw [List.length_cons]
          omega
        rw [inductionHypothesis, further, List.length_cons, hashBefore_cons]
      · rfl

/-- A chain that is cut off at its end is linked still. -/
theorem Linked.of_prefix {front log : AuditLog} (linked : log.Linked) (isPrefix : front <+: log) :
    front.Linked := by
  obtain ⟨back, rfl⟩ := isPrefix
  rw [← firstMisplaced_eq_none_iff_linked, firstMisplaced_append, Option.or_eq_none_iff] at linked
  exact firstMisplaced_eq_none_iff_linked.mp linked.1

/-! ### Where entries depart from a log -/

/-- In front of a place some entries are those of a log, and at the place they have
an entry that the log does not have there. -/
structure DepartsAt (kept log : AuditLog) (place : Nat) (entry : AuditEntry) : Prop where
  before : kept.take place = log.take place
  found : kept[place]? = some entry
  different : log[place]? ≠ some entry

theorem exists_departsAt {kept log : AuditLog} (notPrefix : ¬ kept <+: log) :
    ∃ place entry, kept.DepartsAt log place entry := by
  induction kept generalizing log with
  | nil => exact absurd List.nil_prefix notPrefix
  | cons head rest inductionHypothesis =>
      cases log with
      | nil => exact ⟨0, head, rfl, rfl, by simp⟩
      | cons first others =>
          by_cases same : head = first
          · subst same
            have later : ¬ rest <+: others := fun further =>
              notPrefix (List.cons_prefix_cons.mpr ⟨rfl, further⟩)
            obtain ⟨place, entry, before, found, different⟩ := inductionHypothesis later
            exact ⟨place + 1, entry, by simp [before], found, different⟩
          · refine ⟨0, head, rfl, rfl, fun there => same ?_⟩
            exact (Option.some.inj there).symm

section Departing

variable {kept log : AuditLog} {place : Nat} {entry : AuditEntry}

/-- An entry that is met too early stands further behind in the log. -/
theorem DepartsAt.exists_later (departs : kept.DepartsAt log place entry) (distinct : kept.Nodup)
    (taken : ∀ entry ∈ kept, entry ∈ log) : ∃ later, place < later ∧ log[later]? = some entry := by
  obtain ⟨later, there⟩ := List.getElem?_of_mem (taken entry (List.mem_of_getElem? departs.found))
  refine ⟨later, ?_, there⟩
  by_contra notLater
  rcases Nat.lt_or_eq_of_le (Nat.le_of_not_lt notLater) with earlier | same
  · -- In front of the place both have the same entries, so that this one would come twice.
    have twice : kept[later]? = kept[place]? := by
      rw [departs.found, ← there, ← List.getElem?_take_of_lt earlier, departs.before,
        List.getElem?_take_of_lt earlier]
    have inside := (List.getElem?_eq_some_iff.mp departs.found).1
    exact List.nodup_iff_getElem?_ne_getElem?.mp distinct later place earlier inside twice
  · exact departs.different (same ▸ there)

end Departing

/-- Two entries with one content hash stand so far apart that their numbers are one
again. -/
def Recurs (log : AuditLog) : Prop :=
  ∃ (near far : Nat) (entry other : AuditEntry), near < far ∧
    UInt64.ofNat near = UInt64.ofNat far ∧ log[near]? = some entry ∧ log[far]? = some other ∧
    entry.contentHash = other.contentHash

theorem toNat_mod_of_ofNat_eq {near far : Nat} (same : UInt64.ofNat near = UInt64.ofNat far) :
    near % UInt64.size = far % UInt64.size := by
  have read := congrArg UInt64.toNat same
  rwa [UInt64.toNat_ofNat', UInt64.toNat_ofNat'] at read

/-- That takes more entries than there are numbers. -/
theorem Recurs.size_lt_length {log : AuditLog} (recurs : log.Recurs) :
    UInt64.size < log.length := by
  obtain ⟨near, far, entry, other, apart, sameNumber, -, there, -⟩ := recurs
  have inside := (List.getElem?_eq_some_iff.mp there).1
  have sameRest := toNat_mod_of_ofNat_eq sameNumber
  simp only [UInt64.size] at sameRest ⊢
  omega

section Linked

variable {kept log : AuditLog}

/-- An entry that stands further behind in a chain fits nowhere before, or the chain
recurs. -/
theorem Linked.misfit_or_recurs (linked : log.Linked) {place later : Nat} {entry : AuditEntry}
    (before : place < later) (there : log[later]? = some entry) :
    ¬ (entry.sequence = UInt64.ofNat (place + 1) ∧
        entry.previousHash = hashBefore none log place) ∨ log.Recurs := by
  by_cases fits : entry.sequence = UInt64.ofNat (place + 1) ∧
      entry.previousHash = hashBefore none log place
  · obtain ⟨sameNumber, sameHash⟩ := fits
    obtain ⟨far, rfl⟩ : ∃ far, later = far + 1 := ⟨later - 1, by omega⟩
    obtain ⟨previous, inFront, hash⟩ := linked.behind there
    rw [hash] at sameHash
    cases place with
    | zero => cases sameHash
    | succ near =>
        obtain ⟨other, otherInFront, equal⟩ := Option.map_eq_some_iff.mp sameHash.symm
        have numbers := sameNumber.symm.trans (linked_iff.mp linked (far + 1) entry there).1
        have sameRest := toNat_mod_of_ofNat_eq numbers
        refine .inr ⟨near, far, other, previous, by omega, ?_, otherInFront, inFront, equal⟩
        apply UInt64.toNat_inj.mp
        rw [UInt64.toNat_ofNat', UInt64.toNat_ofNat']
        simp only [UInt64.size] at sameRest
        omega
  · exact .inl fits

/-- Entries of a chain that depart from it are broken where they do. -/
theorem Linked.broken_of_departs (linked : log.Linked) (distinct : kept.Nodup)
    (taken : ∀ entry ∈ kept, entry ∈ log) {place : Nat} {entry : AuditEntry}
    (departs : kept.DepartsAt log place entry) :
    kept.verifyChain = .broken entry.id entry.sequence ∨ log.Recurs := by
  obtain ⟨later, behind, there⟩ := departs.exists_later distinct taken
  have inside := (List.getElem?_eq_some_iff.mp there).1
  refine (linked.misfit_or_recurs behind there).imp_left fun misfit => ?_
  obtain ⟨back, split⟩ : ∃ back, kept = log.take place ++ entry :: back := by
    obtain ⟨within, here⟩ := List.getElem?_eq_some_iff.mp departs.found
    refine ⟨kept.drop (place + 1), ?_⟩
    rw [← departs.before, ← here, ← List.drop_eq_getElem_cons within, List.take_append_drop]
  have length : (log.take place).length = place := List.length_take_of_le (by omega)
  have sameHash : hashBefore none (log.take place) place = hashBefore none log place := by
    cases place with
    | zero => rfl
    | succ before =>
        exact congrArg (Option.map AuditEntry.contentHash)
          (List.getElem?_take_of_lt (Nat.lt_succ_self before))
  have placed : firstMisplaced 0 none (log.take place) = none :=
    firstMisplaced_eq_none_iff_linked.mpr (linked.of_prefix (List.take_prefix place log))
  have found : firstMisplaced 0 none kept = some entry := by
    rw [split, firstMisplaced_append, placed, Option.none_or, Nat.zero_add, length, sameHash,
      firstMisplaced, if_neg misfit]
  rw [verifyChain, found]

end Linked

end AuditLog

/-- Of what recorders have written, some entries in some order are found intact
exactly when they are its beginning; otherwise the look breaks off at the entry where
they first depart from it. They do depart when an entry in front of one that is left
is gone, and when all are left in another order. The one exception is a log with more
entries than there are numbers in which a content hash comes again after just as many. -/
theorem selections_are_found_out (signer : Signer) (moves : List RecorderMove) {kept : AuditLog}
    (distinct : kept.Nodup)
    (taken : ∀ entry ∈ kept, entry ∈ ((Custody.start signer).run moves).recorder.log) :
    let log := ((Custody.start signer).run moves).recorder.log
    ((kept.verifyChain = .intact kept.length ↔ kept <+: log) ∧
        (¬ kept <+: log → ∃ place entry, kept.DepartsAt log place entry ∧
          kept.verifyChain = .broken entry.id entry.sequence) ∨
      UInt64.size < log.length ∧ log.Recurs) ∧
      (∀ (removed left : Nat) (gone stays : AuditEntry), removed < left →
        log[removed]? = some gone → gone ∉ kept → log[left]? = some stays → stays ∈ kept →
          ¬ kept <+: log) ∧
      (kept.Perm log → kept ≠ log → ¬ kept <+: log) := by
  intro log
  have custody : ((Custody.start signer).run moves).Kept :=
    Custody.kept_run (Custody.kept_start signer) moves
  have linked : log.Linked := custody.linked
  have logDistinct : log.Nodup := List.Nodup.of_map AuditEntry.id custody.distinct
  refine ⟨?_, ?_, ?_⟩
  · by_cases recurs : log.Recurs
    · exact .inr ⟨recurs.size_lt_length, recurs⟩
    · have broken (notPrefix : ¬ kept <+: log) : ∃ place entry, kept.DepartsAt log place entry ∧
          kept.verifyChain = .broken entry.id entry.sequence := by
        obtain ⟨place, entry, departs⟩ := AuditLog.exists_departsAt notPrefix
        have found := linked.broken_of_departs distinct taken departs
        exact ⟨place, entry, departs, found.resolve_right recurs⟩
      refine .inl ⟨⟨fun intact => ?_, fun isPrefix => ?_⟩, broken⟩
      · by_contra notPrefix
        obtain ⟨place, entry, -, found⟩ := broken notPrefix
        rw [intact] at found
        cases found
      · exact AuditLog.verifyChain_eq_intact_iff.mpr ⟨linked.of_prefix isPrefix, rfl⟩
  · intro removed left gone stays inFront wasThere isGone there isLeft isPrefix
    obtain ⟨place, within, stands⟩ := List.mem_iff_getElem.mp isLeft
    have standsThere : log[place]? = some stays :=
      stands ▸ List.prefix_iff_getElem?.mp isPrefix place within
    have inside := (List.getElem?_eq_some_iff.mp standsThere).1
    have same : place = left :=
      (List.getElem?_inj inside logDistinct).mp (standsThere.trans there.symm)
    have withinToo : removed < kept.length := by omega
    have stillThere := wasThere.symm.trans
      (List.prefix_iff_getElem?.mp isPrefix removed withinToo)
    exact isGone (Option.some.inj stillThere ▸ List.getElem_mem withinToo)
  · intro shuffled other isPrefix
    exact other (isPrefix.eq_of_length shuffled.length_eq)

/-- Without its second entry the chain breaks off at the third. -/
theorem gap_is_found_out :
    let log := ((Custody.start Sample.auditor).run Sample.mishaps).recorder.log
    let kept : AuditLog := log.eraseIdx 1
    kept.Nodup ∧ (∀ entry ∈ kept, entry ∈ log) ∧ ¬ kept <+: log ∧
      kept.verifyChain = .broken (.numbered 3) 3 := by
  intro log kept
  obtain ⟨first, second, third, written, firstId, secondId, thirdId, number⟩ :
      ∃ first second third : AuditEntry, log = [first, second, third] ∧
        first.id = .numbered 1 ∧ second.id = .numbered 2 ∧ third.id = .numbered 3 ∧
        third.sequence = 3 :=
    ⟨_, _, _, rfl, rfl, rfl, rfl, rfl⟩
  have left : kept = [first, third] := by
    rw [show kept = log.eraseIdx 1 from rfl, written]
    rfl
  have apart {entry other : AuditEntry} {number another : Nat} (id : entry.id = .numbered number)
      (otherId : other.id = .numbered another)
      (different : Identifier.numbered number ≠ .numbered another) : entry ≠ other := by
    rintro rfl
    exact different (id.symm.trans otherId)
  have firstThird : first ≠ third := apart firstId thirdId (by decide)
  have secondFirst : second ≠ first := apart secondId firstId (by decide)
  have secondThird : second ≠ third := apart secondId thirdId (by decide)
  have distinct : kept.Nodup := by simp [left, firstThird]
  have taken : ∀ entry ∈ kept, entry ∈ log := by simp [left, written]
  obtain ⟨finds, gap, -⟩ := selections_are_found_out Sample.auditor Sample.mishaps distinct taken
  have notPrefix : ¬ kept <+: log := by
    refine gap 1 2 second third (by decide) ?_ ?_ ?_ ?_
    · exact congrArg (·[1]?) written
    · simp [left, secondFirst, secondThird]
    · exact congrArg (·[2]?) written
    · simp [left]
  refine ⟨distinct, taken, notPrefix, ?_⟩
  rcases finds with ⟨-, breaks⟩ | ⟨long, -⟩
  · obtain ⟨place, entry, departs, found⟩ := breaks notPrefix
    have here : kept[place]? = some entry := departs.found
    have different : log[place]? ≠ some entry := departs.different
    rw [left] at here
    rw [written] at different
    match place with
    | 0 => exact absurd here different
    | 1 =>
        cases here
        rw [found, thirdId, number]
    | later + 2 => cases here
  · change UInt64.size < log.length at long
    rw [written] at long
    simp only [List.length_cons, List.length_nil, UInt64.size] at long
    omega

end BenefitCasework
