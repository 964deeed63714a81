import BenefitCasework.Audit.Recorder

/-!
Contract: what a signer confirms.

Owns:
- `Text.Base64.Strict`, the texts that are read as bytes, said without the reader, and
  `Text.Base64.exists_decode_iff`;
- `Signer.verify_of_usable`, that a key confirms what it writes and nothing else, and
  `Signer.confirms_iff`, the same for every signer;
- `Recorder.verifyEntry_of_fit`, `Recorder.verifyEntry_of_misfit` and
  `Recorder.verifyEntry_eq_valid_iff`, when a signed entry is accepted.

Does not own: how entries get their seals.
-/

namespace BenefitCasework

/-! ### Strict texts -/

namespace Text.Base64

/-- The texts in groups of four symbols. The last group may stand for one or two bytes:
it is filled up with `=`, and the bits behind the last byte are zero. -/
inductive Strict : List Char → Prop
  | nil : Strict []
  | oneByte {high low : Nat} (highSmall : high < 64) (lowSmall : low < 64)
      (zeroBits : low % 16 = 0) : Strict [symbol high, symbol low, '=', '=']
  | twoBytes {high middle low : Nat} (highSmall : high < 64) (middleSmall : middle < 64)
      (lowSmall : low < 64) (zeroBits : low % 4 = 0) :
      Strict [symbol high, symbol middle, symbol low, '=']
  | group {top high middle low : Nat} {rest : List Char} (topSmall : top < 64)
      (highSmall : high < 64) (middleSmall : middle < 64) (lowSmall : low < 64)
      (restStrict : Strict rest) :
      Strict (symbol top :: symbol high :: symbol middle :: symbol low :: rest)

/-- What is written for bytes is strict. -/
theorem strict_encode (bytes : List UInt8) : Strict (encode bytes) := by
  induction bytes using encode.induct with
  | case1 => exact .nil
  | case2 first =>
      have bound := first.toNat_lt
      exact .oneByte (by omega) (by omega) (by omega)
  | case3 first second =>
      have firstBound := first.toNat_lt
      have secondBound := second.toNat_lt
      exact .twoBytes (by omega) (by omega) (by omega) (by omega)
  | case4 first second third rest inductionHypothesis =>
      have firstBound := first.toNat_lt
      have secondBound := second.toNat_lt
      have thirdBound := third.toNat_lt
      exact .group (by omega) (by omega) (by omega) (by omega) inductionHypothesis

theorem Strict.exists_decode {characters : List Char} (strict : Strict characters) :
    ∃ bytes, decode characters = some bytes := by
  induction strict with
  | nil => exact ⟨[], rfl⟩
  | oneByte highSmall lowSmall zeroBits =>
      simp only [decode, lastByte, and_self, if_true, valueOf_symbol highSmall,
        valueOf_symbol lowSmall, zeroBits]
      exact ⟨_, rfl⟩
  | twoBytes highSmall middleSmall lowSmall zeroBits =>
      simp only [decode, lastTwoBytes, and_self, if_true, symbol_ne_padding lowSmall, if_false,
        valueOf_symbol highSmall, valueOf_symbol middleSmall, valueOf_symbol lowSmall, zeroBits]
      exact ⟨_, rfl⟩
  | group topSmall highSmall middleSmall lowSmall restStrict inductionHypothesis =>
      obtain ⟨bytes, read⟩ := inductionHypothesis
      simp only [decode, symbol_ne_padding lowSmall, and_false, if_false, threeBytes, read,
        valueOf_symbol topSmall, valueOf_symbol highSmall, valueOf_symbol middleSmall,
        valueOf_symbol lowSmall]
      exact ⟨_, rfl⟩

/-- The strict texts are those that are read. -/
theorem exists_decode_iff {characters : List Char} :
    (∃ bytes, decode characters = some bytes) ↔ Strict characters := by
  refine ⟨?_, Strict.exists_decode⟩
  rintro ⟨bytes, read⟩
  rw [eq_encode_of_decode read]
  exact strict_encode bytes

theorem decode_toList_eq_some_iff {text : String} {bytes : List UInt8} :
    decode text.toList = some bytes ↔ text = encodeText bytes := by
  rw [decode_eq_some_iff, encodeText]
  constructor
  · intro written
    rw [← written, String.ofList_toList]
  · rintro rfl
    rw [String.toList_ofList]

theorem encodeText_injective : Function.Injective encodeText := by
  intro left right same
  have read := decode_toList_eq_some_iff.mpr same
  rw [decode_toList_eq_some_iff.mpr rfl] at read
  exact Option.some.inj read

end Text.Base64

/-! ### One text for the bytes -/

namespace Signer

variable {signer : Signer} {bytes : List UInt8} {signature : String}

section Usable

variable {key : List UInt8} (usable : signer.usableKey = .ok key)
include usable

theorem sign_of_usable (bytes : List UInt8) :
    signer.sign bytes = .ok (Text.Base64.encodeText (Digest.Hmac.authenticate key bytes)) := by
  simp only [sign, usable]

/-- A usable key confirms the text that it writes for the bytes, and no other text. -/
theorem verify_of_usable (bytes : List UInt8) (text : String) :
    signer.verify bytes text =
      .ok (decide (text = Text.Base64.encodeText (Digest.Hmac.authenticate key bytes))) := by
  have same : text = Text.Base64.encodeText (Digest.Hmac.authenticate key bytes) ↔
      Text.Base64.decode text.toList = some (Digest.Hmac.authenticate key bytes) :=
    Text.Base64.decode_toList_eq_some_iff.symm
  cases read : Text.Base64.decode text.toList with
  | none =>
      have other := mt same.mp (by simp [read])
      simp only [verify, read, decide_eq_false other]
  | some tag =>
      rw [read, Option.some.injEq, eq_comm (b := Digest.Hmac.authenticate key bytes)] at same
      simp only [verify, read, usable, same]

end Usable

section Unusable

variable {reason : SigningError} (unusable : signer.usableKey = .error reason)
include unusable

theorem sign_of_unusable (bytes : List UInt8) : signer.sign bytes = .error reason := by
  simp only [sign, unusable]

theorem verify_of_strict {text : String} (strict : Text.Base64.Strict text.toList) :
    signer.verify bytes text = .error reason := by
  obtain ⟨tag, read⟩ := strict.exists_decode
  simp only [verify, read, unusable]

end Unusable

/-- What is not strict is refused before the key is looked at. -/
theorem verify_of_not_strict {text : String} (loose : ¬ Text.Base64.Strict text.toList) :
    signer.verify bytes text = .ok false := by
  cases read : Text.Base64.decode text.toList with
  | none => simp only [verify, read]
  | some tag => exact absurd (Text.Base64.exists_decode_iff.mp ⟨tag, read⟩) loose

/-- A text is confirmed exactly when the signer writes it itself. -/
theorem confirms_iff :
    (signer.verify bytes signature).toOption = some true ↔ signer.sign bytes = .ok signature := by
  cases usable : signer.usableKey with
  | ok key =>
      rw [verify_of_usable usable, sign_of_usable usable]
      simp [Except.toOption, eq_comm]
  | error reason =>
      rw [sign_of_unusable usable]
      by_cases strict : Text.Base64.Strict signature.toList
      · simp [verify_of_strict usable strict, Except.toOption]
      · simp [verify_of_not_strict strict, Except.toOption]

/-- One signature for two texts comes from one digest. -/
theorem authenticate_eq_of_sign {keyId : String} {key left right : List UInt8}
    (first : sign ⟨keyId, some key⟩ left = .ok signature)
    (second : sign ⟨keyId, some key⟩ right = .ok signature) :
    Digest.Hmac.authenticate key left = Digest.Hmac.authenticate key right := by
  cases key with
  | nil => cases first
  | cons byte rest =>
      have usable : usableKey ⟨keyId, some (byte :: rest)⟩ = .ok (byte :: rest) := rfl
      rw [sign_of_usable usable] at first second
      exact Text.Base64.encodeText_injective (Except.ok.inj (first.trans second.symm))

end Signer

namespace Recorder

variable {signer : Signer} {entry : AuditEntry} {keyId text : String}

/-- A signed entry is accepted when the signer would seal it like that. -/
theorem verifyEntry_of_fit (sealedBy : entry.sealedBy = .signed keyId text)
    (sameName : keyId = signer.keyId) (signed : signer.sign entry.canonicalBytes = .ok text) :
    verifyEntry signer entry = .valid := by
  rw [verifyEntry, sealedBy]
  exact if_pos ⟨sameName, Signer.confirms_iff.mpr signed⟩

/-- No other signed entry is accepted. -/
theorem verifyEntry_of_misfit (sealedBy : entry.sealedBy = .signed keyId text)
    (misfit : keyId = signer.keyId → signer.sign entry.canonicalBytes ≠ .ok text) :
    verifyEntry signer entry = .invalid := by
  rw [verifyEntry, sealedBy]
  exact if_neg fun both => misfit both.1 (Signer.confirms_iff.mp both.2)

theorem verifyEntry_eq_valid_iff (sealedBy : entry.sealedBy = .signed keyId text) :
    verifyEntry signer entry = .valid ↔
      keyId = signer.keyId ∧ signer.sign entry.canonicalBytes = .ok text := by
  refine ⟨fun accepted => ?_, fun fit => verifyEntry_of_fit sealedBy fit.1 fit.2⟩
  refine Classical.byContradiction fun misfit => ?_
  rw [verifyEntry_of_misfit sealedBy fun sameName signed => misfit ⟨sameName, signed⟩] at accepted
  cases accepted

end Recorder

end BenefitCasework
