import BenefitCasework.Audit.Log
import BenefitCasework.Proofs.Audit.Canonical

/-!
Contract: an intact chain fixes what stands before each of its entries.

Owns:
- `AuditLog.verifyChain_eq_intact_iff`: what is found intact is linked;
- `AuditLog.linked_append_singleton`, how a linked log grows;
- `AuditLog.Agree` and `AuditLog.Collide`, two logs that show the same but for the
  seals, and two that show a collision of the digest;
- `AuditLog.Linked.agreeUpTo`, which goes back along two chains from entries with
  one content hash, and `chain_fixes_its_past`.

Does not own: seals. That the digest has no collisions is nowhere assumed.
-/

namespace BenefitCasework

/-- The content hash names the digest. -/
theorem digestText_eq_iff {left right : List UInt8} : digestText left = digestText right ↔
    Digest.Sha256.digest left = Digest.Sha256.digest right := by
  refine ⟨fun same => ?_, fun same => by rw [digestText, digestText, same]⟩
  have characters := congrArg String.toList same
  simp only [digestText, Text.Base64.encodeText, String.toList_ofList] at characters
  have read := congrArg Text.Base64.decode characters
  rw [Text.Base64.decode_encode, Text.Base64.decode_encode] at read
  exact Option.some.inj read

namespace AuditLog

/-! ### Linked logs -/

/-- The content hash in front of a place, where something stands in front of the
log as well. -/
def hashBefore (previous : Option String) (log : AuditLog) : Nat → Option String
  | 0 => previous
  | before + 1 => log[before]?.map AuditEntry.contentHash

theorem linked_iff {log : AuditLog} :
    log.Linked ↔ ∀ (place : Nat) (entry : AuditEntry), log[place]? = some entry →
      entry.sequence = UInt64.ofNat (place + 1) ∧
        entry.previousHash = hashBefore none log place :=
  Iff.rfl

/-- The hash in front of a place behind the first entry is that in the rest. -/
theorem hashBefore_cons (previous : Option String) (first : AuditEntry) (rest : AuditLog)
    (place : Nat) : hashBefore previous (first :: rest) (place + 1) =
      hashBefore (some first.contentHash) rest place := by
  cases place with
  | zero => rfl
  | succ before => rfl

/-- No entry is misplaced if each has its number and the digest of the one before,
the first of them that of what stands in front. -/
theorem firstMisplaced_eq_none_iff {place : Nat} {previous : Option String} {log : AuditLog} :
    firstMisplaced place previous log = none ↔
      ∀ (offset : Nat) (entry : AuditEntry), log[offset]? = some entry →
        entry.sequence = UInt64.ofNat (place + offset + 1) ∧
          entry.previousHash = hashBefore previous log offset := by
  induction log generalizing place previous with
  | nil => simp [firstMisplaced]
  | cons first rest inductionHypothesis =>
      have further (offset : Nat) : place + (offset + 1) + 1 = place + 1 + offset + 1 := by omega
      rw [firstMisplaced]
      constructor
      · intro none offset entry found
        split at none
        · rename_i placed
          cases offset with
          | zero =>
              cases found
              exact placed
          | succ offset =>
              rw [further, hashBefore_cons]
              exact inductionHypothesis.mp none offset entry found
        · cases none
      · intro placed
        have here : first.sequence = UInt64.ofNat (place + 1) ∧ first.previousHash = previous :=
          placed 0 first rfl
        rw [if_pos here]
        refine inductionHypothesis.mpr fun offset entry found => ?_
        rw [← further, ← hashBefore_cons previous]
        exact placed (offset + 1) entry found

theorem firstMisplaced_eq_none_iff_linked {log : AuditLog} :
    firstMisplaced 0 none log = none ↔ log.Linked := by
  rw [firstMisplaced_eq_none_iff, linked_iff]
  simp only [Nat.zero_add]

/-- A chain is found intact exactly when it is linked. -/
theorem verifyChain_eq_intact_iff {log : AuditLog} {count : Nat} :
    log.verifyChain = .intact count ↔ log.Linked ∧ count = log.length := by
  unfold verifyChain
  cases found : firstMisplaced 0 none log with
  | none => simp [firstMisplaced_eq_none_iff_linked.mp found, eq_comm]
  | some entry => simp [← firstMisplaced_eq_none_iff_linked, found]

theorem broken_of_not_linked {log : AuditLog} (unlinked : ¬ log.Linked) :
    ∃ id sequence, log.verifyChain = .broken id sequence := by
  cases found : log.verifyChain with
  | intact count => exact absurd (verifyChain_eq_intact_iff.mp found).1 unlinked
  | broken id sequence => exact ⟨id, sequence, rfl⟩

/-- Each entry but the first has the content hash of one in front of it. -/
theorem Linked.behind {log : AuditLog} (linked : log.Linked) {place : Nat} {entry : AuditEntry}
    (found : log[place + 1]? = some entry) :
    ∃ before, log[place]? = some before ∧ entry.previousHash = some before.contentHash := by
  have inside := (List.getElem?_eq_some_iff.mp found).1
  have below : place < log.length := by omega
  have hash := (linked_iff.mp linked (place + 1) entry found).2
  rw [hashBefore, List.getElem?_eq_getElem below, Option.map_some] at hash
  exact ⟨log[place], List.getElem?_eq_getElem below, hash⟩

/-- A linked log grows by an entry with the next number and the digest of the last
one. -/
theorem linked_append_singleton {log : AuditLog} {entry : AuditEntry} (linked : log.Linked)
    (numbered : entry.sequence = UInt64.ofNat (log.length + 1))
    (behind : entry.previousHash = log.getLast?.map AuditEntry.contentHash) :
    (log ++ [entry]).Linked := by
  have inside (before : Nat) (below : before < log.length) : (log ++ [entry])[before]? =
      log[before]? := List.getElem?_append_left below
  have hashes (place : Nat) (notBehind : place ≤ log.length) :
      hashBefore none (log ++ [entry]) place = hashBefore none log place := by
    cases place with
    | zero => rfl
    | succ before => exact congrArg (Option.map AuditEntry.contentHash) (inside before notBehind)
  refine linked_iff.mpr fun place found there => ?_
  have notBehind : place ≤ log.length := by
    have bound := (List.getElem?_eq_some_iff.mp there).1
    rw [List.length_append, List.length_singleton] at bound
    omega
  rw [hashes place notBehind]
  rcases Nat.lt_or_eq_of_le notBehind with below | last
  · exact linked_iff.mp linked place found ((inside place below).symm.trans there)
  · subst last
    rw [List.getElem?_concat_length] at there
    cases there
    refine ⟨numbered, behind.trans ?_⟩
    rw [List.getLast?_eq_getElem?]
    cases size : log.length with
    | zero => rw [List.length_eq_zero_iff.mp size]; rfl
    | succ before => rfl

/-! ### Two chains -/

def IsExact (log : AuditLog) : Prop := ∀ entry ∈ log, entry.IsExact

/-- At each place the entries, as they are shown, differ in their seal at most. -/
def Agree (left right : AuditLog) : Prop :=
  ∀ (place : Nat) (entry other : AuditEntry), left[place]? = some entry →
    right[place]? = some other → entry.Matches other

/-- At some place the entries have different canonical bytes with one digest. -/
def Collide (left right : AuditLog) : Prop :=
  ∃ (place : Nat) (entry other : AuditEntry), left[place]? = some entry ∧
    right[place]? = some other ∧ entry.canonicalBytes ≠ other.canonicalBytes ∧
    Digest.Sha256.digest entry.canonicalBytes = Digest.Sha256.digest other.canonicalBytes

section Chains

variable {left right : AuditLog}

/-- Entries with one content hash show the same but for the seal, or they collide. -/
theorem matches_or_collide (leftExact : left.IsExact) (rightExact : right.IsExact)
    {place : Nat} {entry other : AuditEntry} (found : left[place]? = some entry)
    (foundThere : right[place]? = some other) (same : entry.contentHash = other.contentHash) :
    entry.Matches other ∨ left.Collide right := by
  by_cases bytes : entry.canonicalBytes = other.canonicalBytes
  · exact .inl ((AuditEntry.canonicalBytes_eq_iff (leftExact entry (List.mem_of_getElem? found))
      (rightExact other (List.mem_of_getElem? foundThere))).mp bytes)
  · exact .inr ⟨place, entry, other, found, foundThere, bytes, digestText_eq_iff.mp same⟩

/-- From two entries with one content hash on, two chains agree backwards, unless
they collide. -/
theorem Linked.agreeUpTo (leftLinked : left.Linked) (rightLinked : right.Linked)
    (leftExact : left.IsExact) (rightExact : right.IsExact) {place : Nat}
    {entry other : AuditEntry} (found : left[place]? = some entry)
    (foundThere : right[place]? = some other) (same : entry.contentHash = other.contentHash) :
    (∀ (earlier : Nat) (before beforeThere : AuditEntry), earlier ≤ place →
      left[earlier]? = some before → right[earlier]? = some beforeThere →
        before.Matches beforeThere) ∨
      left.Collide right := by
  -- The place decreases; what carries the step is the previous hash, which the content hash fixes.
  induction place generalizing entry other with
  | zero =>
      refine (matches_or_collide leftExact rightExact found foundThere same).imp_left ?_
      intro equal earlier before beforeThere first beforeFound thereFound
      rw [Nat.le_zero.mp first] at beforeFound thereFound
      cases found.symm.trans beforeFound
      cases foundThere.symm.trans thereFound
      exact equal
  | succ place inductionHypothesis =>
      rcases matches_or_collide leftExact rightExact found foundThere same with
        equal | collide
      · obtain ⟨previous, previousFound, hash⟩ := leftLinked.behind found
        obtain ⟨previousThere, previousFoundThere, hashThere⟩ := rightLinked.behind foundThere
        have sameHash : some previous.contentHash = some previousThere.contentHash :=
          hash.symm.trans (equal.previousHash.trans hashThere)
        refine (inductionHypothesis previousFound previousFoundThere
          (Option.some.inj sameHash)).imp_left ?_
        intro upTo earlier before beforeThere notBehind beforeFound thereFound
        rcases Nat.le_succ_iff.mp notBehind with further | here
        · exact upTo earlier before beforeThere further beforeFound thereFound
        · rw [here] at beforeFound thereFound
          cases found.symm.trans beforeFound
          cases foundThere.symm.trans thereFound
          exact equal
      · exact .inr collide

end Chains

end AuditLog

/-- An intact chain fixes what its past shows: two of one length that end in one content
hash agree but for the seals, and whoever rewrites what is shown of an entry in front of
one that stays breaks the chain, unless the two show a collision of the digest. -/
theorem chain_fixes_its_past {left right : AuditLog} {count : Nat} (leftExact : left.IsExact)
    (rightExact : right.IsExact) (leftIntact : left.verifyChain = .intact count) :
    (right.verifyChain = .intact count →
      left.getLast?.map AuditEntry.contentHash = right.getLast?.map AuditEntry.contentHash →
        left.Agree right ∨ left.Collide right) ∧
      ∀ (early late : Nat) (entry rewritten untouched : AuditEntry), early < late →
        left[early]? = some entry → right[early]? = some rewritten →
        ¬ entry.Matches rewritten →
        left[late]? = some untouched → right[late]? = some untouched →
          (∃ id sequence, right.verifyChain = .broken id sequence) ∨ left.Collide right := by
  obtain ⟨leftLinked, size⟩ := AuditLog.verifyChain_eq_intact_iff.mp leftIntact
  constructor
  · intro rightIntact sameHash
    obtain ⟨rightLinked, sizeThere⟩ := AuditLog.verifyChain_eq_intact_iff.mp rightIntact
    rw [List.getLast?_eq_getElem?, List.getLast?_eq_getElem?, ← size, ← sizeThere] at sameHash
    cases last : left[count - 1]? with
    | none =>
        have empty := List.getElem?_eq_none_iff.mp last
        refine .inl fun place entry other found _ => ?_
        have inside := (List.getElem?_eq_some_iff.mp found).1
        omega
    | some entry =>
        rw [last, Option.map_some, eq_comm, Option.map_eq_some_iff] at sameHash
        obtain ⟨other, lastThere, equal⟩ := sameHash
        refine (leftLinked.agreeUpTo rightLinked leftExact rightExact last lastThere
          equal.symm).imp_left ?_
        intro upTo place before beforeThere found foundThere
        have inside := (List.getElem?_eq_some_iff.mp found).1
        exact upTo place before beforeThere (by omega) found foundThere
  · intro early late entry rewritten untouched earlier found rewrote different stays staysThere
    by_cases rightLinked : right.Linked
    · refine (leftLinked.agreeUpTo rightLinked leftExact rightExact stays staysThere
        rfl).imp_left ?_
      intro upTo
      exact absurd (upTo early entry rewritten (Nat.le_of_lt earlier) found rewrote) different
    · exact .inl (AuditLog.broken_of_not_linked rightLinked)

namespace Sample

def secondEntry : AuditEntry :=
  { entry with
    id := .numbered 8
    sequence := 2
    action := "approve"
    previousHash := some entry.contentHash }

/-- A chain of two entries, sealed in the first way or the second. -/
def chain (first second : Seal) : AuditLog :=
  [{ entry with sealedBy := first }, { secondEntry with sealedBy := second }]

/-- The chain in which the first entry tells of another action. -/
def rewrittenChain : AuditLog := [{ entry with action := "reject" }, secondEntry]

theorem isExact_chain (first second : Seal) : (chain first second).IsExact := by
  unfold AuditLog.IsExact AuditEntry.IsExact
  simp only [chain, List.forall_mem_cons]
  decide

theorem intact_chain (first second : Seal) : (chain first second).verifyChain = .intact 2 := by
  have none : AuditLog.firstMisplaced 0 none (chain first second) = none := by
    simp only [chain, AuditLog.firstMisplaced]
    rw [if_pos ⟨rfl, rfl⟩, if_pos ⟨rfl, rfl⟩]
  rw [AuditLog.verifyChain, none]
  rfl

end Sample

/-- Two chains of one entry each end in one content hash, and no other bytes are in
them; yet one has a leap fraction in the middle of a minute where the other has none. -/
theorem stray_leap_passes_in_a_chain :
    let stray : AuditLog := [Sample.entryAt Sample.strayLeap]
    let shown : AuditLog := [Sample.entryAt Sample.halfBehind]
    stray.IsExact ∧ shown.IsExact ∧ stray.verifyChain = .intact 1 ∧
      shown.verifyChain = .intact 1 ∧
      stray.getLast?.map AuditEntry.contentHash = shown.getLast?.map AuditEntry.contentHash ∧
      (∀ entry ∈ stray ++ shown, ∀ other ∈ stray ++ shown,
        entry.canonicalBytes = other.canonicalBytes) ∧
      ∃ entry other, stray[0]? = some entry ∧ shown[0]? = some other ∧
        ¬ entry.SameButSeal other := by
  intro stray shown
  have exact (moment : Instant) : AuditLog.IsExact [Sample.entryAt moment] :=
    List.forall_mem_singleton.mpr (Sample.isExact_entryAt moment)
  have intact (moment : Instant) :
      AuditLog.verifyChain [Sample.entryAt moment] = .intact 1 := by
    have linked : AuditLog.firstMisplaced 0 none [Sample.entryAt moment] = none := if_pos ⟨rfl, rfl⟩
    rw [AuditLog.verifyChain, linked]
    rfl
  have bytes : (Sample.entryAt Sample.strayLeap).canonicalBytes =
      (Sample.entryAt Sample.halfBehind).canonicalBytes :=
    (AuditEntry.canonicalBytes_eq_iff (Sample.isExact_entryAt _) (Sample.isExact_entryAt _)).mpr rfl
  have hash : (Sample.entryAt Sample.strayLeap).contentHash =
      (Sample.entryAt Sample.halfBehind).contentHash := congrArg digestText bytes
  have oneText : ∀ entry ∈ stray ++ shown,
      entry.canonicalBytes = (Sample.entryAt Sample.halfBehind).canonicalBytes := by
    simp [stray, shown, bytes]
  refine ⟨exact _, exact _, intact _, intact _, congrArg some hash,
    fun entry member other otherMember =>
      (oneText entry member).trans (oneText other otherMember).symm,
    _, _, rfl, rfl, fun same => ?_⟩
  exact absurd (congrArg AuditEntry.moment same) (by decide)

/-- A chain that is sealed anew agrees with the old one or collides with it, and a
chain with another first entry is broken or collides with it. -/
theorem chain_of_two_fixes_its_past :
    let chain := Sample.chain Sample.entry.sealedBy Sample.entry.sealedBy
    let resealed := Sample.chain (.signed "audit" "first") (.signed "audit" "second")
    chain.IsExact ∧ resealed.IsExact ∧ Sample.rewrittenChain.IsExact ∧
      chain.verifyChain = .intact 2 ∧ resealed.verifyChain = .intact 2 ∧
      (chain.Agree resealed ∨ chain.Collide resealed) ∧
      ((∃ id sequence, Sample.rewrittenChain.verifyChain = .broken id sequence) ∨
        chain.Collide Sample.rewrittenChain) := by
  have exact := Sample.isExact_chain
  have intact := Sample.intact_chain
  have rewrittenExact : Sample.rewrittenChain.IsExact := by
    unfold AuditLog.IsExact AuditEntry.IsExact
    simp only [Sample.rewrittenChain, List.forall_mem_cons]
    decide
  have different : ¬ Sample.entry.Matches { Sample.entry with action := "reject" } := by
    intro same
    unfold AuditEntry.Matches AuditEntry.SameButSeal at same
    have action : Sample.entry.action = "reject" := congrArg AuditEntry.action same
    exact absurd action (by decide)
  refine ⟨exact _ _, exact _ _, rewrittenExact, intact _ _, intact _ _, ?_, ?_⟩
  · exact (chain_fixes_its_past (exact _ _) (exact _ _) (intact _ _)).1 (intact _ _) rfl
  · exact (chain_fixes_its_past (exact _ _) rewrittenExact (intact _ _)).2 0 1 _ _ _
      (by decide) rfl rfl different rfl rfl

end BenefitCasework
