/-!
Contract: bytes as Base64 text with the standard alphabet and padding.

Owns:
- `Base64.encode`, the one text of a list of bytes;
- `Base64.decode`, which accepts exactly those texts.

The reader is strict: padding is required, the bits behind the last byte must
be zero, and blanks are no part of a text. `decode_eq_some_iff` says that
nothing but what `encode` writes is accepted.

Does not own: the alphabet for addresses in links, or lines of fixed length.
-/

namespace BenefitCasework.Text.Base64

def symbol (value : Nat) : Char :=
  if value < 26 then Char.ofNat (65 + value)
  else if value < 52 then Char.ofNat (71 + value)
  else if value < 62 then Char.ofNat (value - 4)
  else if value = 62 then '+' else '/'

def valueOf (character : Char) : Option Nat :=
  let code := character.toNat
  if 65 ≤ code ∧ code ≤ 90 then some (code - 65)
  else if 97 ≤ code ∧ code ≤ 122 then some (code - 71)
  else if 48 ≤ code ∧ code ≤ 57 then some (code + 4)
  else if code = 43 then some 62
  else if code = 47 then some 63
  else none

/-- The text of a list of bytes: four symbols for each three bytes, the last
group filled up with `=`. -/
def encode : List UInt8 → List Char
  | [] => []
  | [first] =>
      [symbol (first.toNat / 4), symbol (first.toNat % 4 * 16), '=', '=']
  | [first, second] =>
      [symbol (first.toNat / 4), symbol (first.toNat % 4 * 16 + second.toNat / 16),
        symbol (second.toNat % 16 * 4), '=']
  | first :: second :: third :: rest =>
      symbol (first.toNat / 4) :: symbol (first.toNat % 4 * 16 + second.toNat / 16) ::
        symbol (second.toNat % 16 * 4 + third.toNat / 64) :: symbol (third.toNat % 64) ::
        encode rest

def lastByte (first second : Char) : Option (List UInt8) :=
  match valueOf first, valueOf second with
  | some high, some low =>
      if low % 16 = 0 then some [UInt8.ofNat (high * 4 + low / 16)] else none
  | _, _ => none

def lastTwoBytes (first second third : Char) : Option (List UInt8) :=
  match valueOf first, valueOf second, valueOf third with
  | some high, some middle, some low =>
      if low % 4 = 0 then
        some [UInt8.ofNat (high * 4 + middle / 16), UInt8.ofNat (middle % 16 * 16 + low / 4)]
      else none
  | _, _, _ => none

def threeBytes (first second third fourth : Char) : Option (List UInt8) :=
  match valueOf first, valueOf second, valueOf third, valueOf fourth with
  | some top, some high, some middle, some low =>
      some [UInt8.ofNat (top * 4 + high / 16), UInt8.ofNat (high % 16 * 16 + middle / 4),
        UInt8.ofNat (middle % 4 * 64 + low)]
  | _, _, _, _ => none

/-- The bytes of a text, if it is the text of some bytes. -/
def decode : List Char → Option (List UInt8)
  | [] => some []
  | first :: second :: third :: fourth :: rest =>
      if rest = [] ∧ fourth = '=' then
        if third = '=' then lastByte first second else lastTwoBytes first second third
      else
        match threeBytes first second third fourth, decode rest with
        | some group, some bytes => some (group ++ bytes)
        | _, _ => none
  | _ => none

/-- The text of a list of bytes, as a string. -/
def encodeText (bytes : List UInt8) : String :=
  String.ofList (encode bytes)

theorem valueOf_symbol {value : Nat} (small : value < 64) :
    valueOf (symbol value) = some value := by
  have checked : ∀ digit : Fin 64, valueOf (symbol digit) = some digit.val := by decide
  exact checked ⟨value, small⟩

theorem symbol_ne_padding {value : Nat} (small : value < 64) : symbol value ≠ '=' := by
  have checked : ∀ digit : Fin 64, symbol digit ≠ '=' := by decide
  exact checked ⟨value, small⟩

theorem valueOf_lt {character : Char} {value : Nat} (found : valueOf character = some value) :
    value < 64 := by
  unfold valueOf at found
  grind

theorem symbol_of_valueOf {character : Char} {value : Nat}
    (found : valueOf character = some value) : symbol value = character := by
  have bound : character.toNat < 128 := by
    unfold valueOf at found
    grind
  have checked : ∀ code : Fin 128, ∀ known,
      valueOf (Char.ofNat code) = some known → symbol known = Char.ofNat code := by
    intro code known
    have each : ∀ code : Fin 128, (valueOf (Char.ofNat code)).all
        (fun known => symbol known == Char.ofNat code) = true := by decide
    intro equal
    have this := each code
    rw [equal] at this
    simpa using this
  have recovered : Char.ofNat character.toNat = character := Char.ofNat_toNat character
  have applied := checked ⟨character.toNat, bound⟩ value (by simpa [recovered] using found)
  simpa [recovered] using applied

private theorem byte_ofNat {value : Nat} {byte : UInt8} (equal : value = byte.toNat) :
    UInt8.ofNat value = byte := by
  subst equal
  simp

/-- What is written for bytes reads back as the same bytes. -/
theorem decode_encode (bytes : List UInt8) : decode (encode bytes) = some bytes := by
  induction bytes using encode.induct with
  | case1 => rfl
  | case2 first =>
      have bound := first.toNat_lt
      simp only [encode, decode, lastByte, and_self, if_true]
      rw [valueOf_symbol (by omega), valueOf_symbol (by omega)]
      have zero : first.toNat % 4 * 16 % 16 = 0 := by omega
      simp only [zero, if_true]
      congr 2
      exact byte_ofNat (by omega)
  | case3 first second =>
      have firstBound := first.toNat_lt
      have secondBound := second.toNat_lt
      have third : symbol (second.toNat % 16 * 4) ≠ '=' := symbol_ne_padding (by omega)
      simp only [encode, decode, lastTwoBytes, and_self, if_true, third, if_false]
      rw [valueOf_symbol (by omega), valueOf_symbol (by omega), valueOf_symbol (by omega)]
      have zero : second.toNat % 16 * 4 % 4 = 0 := by omega
      simp only [zero, if_true]
      congr 2
      · exact byte_ofNat (by omega)
      · congr 1
        exact byte_ofNat (by omega)
  | case4 first second third rest inductionHypothesis =>
      have firstBound := first.toNat_lt
      have secondBound := second.toNat_lt
      have thirdBound := third.toNat_lt
      have fourth : symbol (third.toNat % 64) ≠ '=' := symbol_ne_padding (by omega)
      simp only [encode, decode, fourth, and_false, if_false, threeBytes, inductionHypothesis]
      rw [valueOf_symbol (by omega), valueOf_symbol (by omega), valueOf_symbol (by omega),
        valueOf_symbol (by omega)]
      simp only [List.cons_append, List.nil_append]
      congr 2
      · exact byte_ofNat (by omega)
      · congr 1
        · exact byte_ofNat (by omega)
        · congr 1
          exact byte_ofNat (by omega)

private theorem toNat_ofNat_small {value : Nat} (small : value < 256) :
    (UInt8.ofNat value).toNat = value := by
  simp [UInt8.toNat_ofNat', Nat.mod_eq_of_lt small]

private theorem eq_encode_of_lastByte {first second : Char} {bytes : List UInt8}
    (read : lastByte first second = some bytes) :
    [first, second, '=', '='] = encode bytes := by
  unfold lastByte at read
  split at read
  · rename_i high low highFound lowFound
    have highBound := valueOf_lt highFound
    have lowBound := valueOf_lt lowFound
    split at read
    · rename_i zero
      cases read
      have value : (UInt8.ofNat (high * 4 + low / 16)).toNat = high * 4 + low / 16 :=
        toNat_ofNat_small (by omega)
      simp only [encode, value]
      rw [show (high * 4 + low / 16) / 4 = high by omega,
        show (high * 4 + low / 16) % 4 * 16 = low by omega,
        symbol_of_valueOf highFound, symbol_of_valueOf lowFound]
    · cases read
  · cases read

private theorem eq_encode_of_lastTwoBytes {first second third : Char} {bytes : List UInt8}
    (read : lastTwoBytes first second third = some bytes) :
    [first, second, third, '='] = encode bytes := by
  unfold lastTwoBytes at read
  split at read
  · rename_i high middle low highFound middleFound lowFound
    have highBound := valueOf_lt highFound
    have middleBound := valueOf_lt middleFound
    have lowBound := valueOf_lt lowFound
    split at read
    · rename_i zero
      cases read
      have upper : (UInt8.ofNat (high * 4 + middle / 16)).toNat = high * 4 + middle / 16 :=
        toNat_ofNat_small (by omega)
      have lower : (UInt8.ofNat (middle % 16 * 16 + low / 4)).toNat = middle % 16 * 16 + low / 4 :=
        toNat_ofNat_small (by omega)
      simp only [encode, upper, lower]
      rw [show (high * 4 + middle / 16) / 4 = high by omega,
        show (high * 4 + middle / 16) % 4 * 16 + (middle % 16 * 16 + low / 4) / 16 = middle by omega,
        show (middle % 16 * 16 + low / 4) % 16 * 4 = low by omega,
        symbol_of_valueOf highFound, symbol_of_valueOf middleFound, symbol_of_valueOf lowFound]
    · cases read
  · cases read

private theorem encode_threeBytes {first second third fourth : Char} {group : List UInt8}
    (read : threeBytes first second third fourth = some group) (rest : List UInt8) :
    encode (group ++ rest) = first :: second :: third :: fourth :: encode rest := by
  unfold threeBytes at read
  split at read
  · rename_i top high middle low topFound highFound middleFound lowFound
    have topBound := valueOf_lt topFound
    have highBound := valueOf_lt highFound
    have middleBound := valueOf_lt middleFound
    have lowBound := valueOf_lt lowFound
    cases read
    have one : (UInt8.ofNat (top * 4 + high / 16)).toNat = top * 4 + high / 16 :=
      toNat_ofNat_small (by omega)
    have two : (UInt8.ofNat (high % 16 * 16 + middle / 4)).toNat = high % 16 * 16 + middle / 4 :=
      toNat_ofNat_small (by omega)
    have three : (UInt8.ofNat (middle % 4 * 64 + low)).toNat = middle % 4 * 64 + low :=
      toNat_ofNat_small (by omega)
    simp only [List.cons_append, List.nil_append, encode, one, two, three]
    rw [show (top * 4 + high / 16) / 4 = top by omega,
      show (top * 4 + high / 16) % 4 * 16 + (high % 16 * 16 + middle / 4) / 16 = high by omega,
      show (high % 16 * 16 + middle / 4) % 16 * 4 + (middle % 4 * 64 + low) / 64 = middle by omega,
      show (middle % 4 * 64 + low) % 64 = low by omega,
      symbol_of_valueOf topFound, symbol_of_valueOf highFound,
      symbol_of_valueOf middleFound, symbol_of_valueOf lowFound]
  · cases read

/-- A text that is accepted is the text of the bytes it reads as. -/
theorem eq_encode_of_decode {characters : List Char} {bytes : List UInt8}
    (read : decode characters = some bytes) : characters = encode bytes := by
  fun_induction decode characters generalizing bytes with
  | case1 =>
      cases read
      rfl
  | case2 =>
      rename_i last
      obtain ⟨rfl, rfl⟩ := last
      exact eq_encode_of_lastByte read
  | case3 =>
      rename_i last unpadded
      obtain ⟨rfl, rfl⟩ := last
      exact eq_encode_of_lastTwoBytes read
  | case4 =>
      rename_i groupRead inductionHypothesis
      cases read
      rw [encode_threeBytes groupRead, ← inductionHypothesis (by assumption)]
  | case5 => cases read
  | case6 => cases read

/-- A text is accepted exactly when it is what is written for the bytes. -/
theorem decode_eq_some_iff {characters : List Char} {bytes : List UInt8} :
    decode characters = some bytes ↔ characters = encode bytes :=
  ⟨eq_encode_of_decode, fun written => written ▸ decode_encode bytes⟩

end BenefitCasework.Text.Base64
