import BenefitCasework.Json.Basic
import BenefitCasework.Number.Shortest
import BenefitCasework.Text.Hex

/-!
Contract: the compact text of a value.

Owns:
- `Json.escape`, one character inside a text;
- `Json.characters`, the text of a value without any blanks, fields in the
  order they are listed;
- `Json.canonicalText`, the text with the fields of every object sorted;
- `Json.asciiText`, the text with every other character written by its code
  units, for channels that carry ASCII only.

Does not own: reading, which is `Json.parse?`.
-/

namespace BenefitCasework.Json

/-- One character of a text as it stands between quotes: quotes, backslashes
and controls are escaped, everything else stands for itself. -/
def escape (character : Char) : List Char :=
  if character = '"' then ['\\', '"']
  else if character = '\\' then ['\\', '\\']
  else if character.toNat < 32 then
    match character.toNat with
    | 8 => ['\\', 'b']
    | 9 => ['\\', 't']
    | 10 => ['\\', 'n']
    | 12 => ['\\', 'f']
    | 13 => ['\\', 'r']
    | code => ['\\', 'u', '0', '0', Text.hexDigit (code / 16), Text.hexDigit (code % 16)]
  else [character]

def stringText (value : String) : List Char :=
  '"' :: (value.toList.flatMap escape ++ ['"'])

/-- The digits of a whole number, with a minus sign in front of negative ones. -/
def integerText : Int → List Char
  | .ofNat value => Nat.toDigits 10 value
  | .negSucc value => '-' :: Nat.toDigits 10 (value + 1)

mutual

/-- The text of a value, fields in the order they are listed. -/
def characters : Json → List Char
  | .null => ['n', 'u', 'l', 'l']
  | .boolean true => ['t', 'r', 'u', 'e']
  | .boolean false => ['f', 'a', 'l', 's', 'e']
  | .integer value => integerText value
  | .decimal value => (value.text .data).toList
  | .string value => stringText value
  | .array items => '[' :: itemCharacters items
  | .object fields => '\x7b' :: fieldCharacters fields

def itemCharacters : List Json → List Char
  | [] => [']']
  | [item] => characters item ++ [']']
  | item :: rest => characters item ++ ',' :: itemCharacters rest

def fieldCharacters : JsonFields → List Char
  | [] => ['\x7d']
  | [(name, value)] => stringText name ++ ':' :: (characters value ++ ['\x7d'])
  | (name, value) :: rest =>
      stringText name ++ ':' :: (characters value ++ ',' :: fieldCharacters rest)

end

def text (value : Json) : String := String.ofList (characters value)

/-- The text of a value with the fields of every object sorted by name. -/
def canonicalText (value : Json) : String := value.sorted.text

def codeUnit (unit : Nat) : List Char :=
  ['\\', 'u', Text.hexDigit (unit / 4096 % 16), Text.hexDigit (unit / 256 % 16),
    Text.hexDigit (unit / 16 % 16), Text.hexDigit (unit % 16)]

/-- A character in ASCII: those beyond it by one or two code units. -/
def asciiCharacter (character : Char) : List Char :=
  let code := character.toNat
  if code < 128 then [character]
  else if code < 0x10000 then codeUnit code
  else codeUnit (0xD800 + (code - 0x10000) / 0x400) ++ codeUnit (0xDC00 + (code - 0x10000) % 0x400)

def asciiText (value : Json) : String :=
  String.ofList ((characters value).flatMap asciiCharacter)

end BenefitCasework.Json
