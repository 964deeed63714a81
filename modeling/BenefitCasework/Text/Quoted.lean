import BenefitCasework.Text.Mark

/-!
Contract: a text between quotes, for descriptions that people read.

Owns:
- `Text.quotedCharacter`, one character as it stands between quotes;
- `Text.quoted`, a text between quotes;
- `Text.quotedList`, a list of texts between brackets.

Quotes and backslashes get a backslash in front, the usual controls have short
forms, and characters that would not be seen are written by their code point.
Does not own: the text of data files, which escapes by other rules.
-/

namespace BenefitCasework.Text

def quotedCharacter (character : Char) : List Char :=
  if character = '"' then ['\\', '"']
  else if character = '\\' then ['\\', '\\']
  else if character = '\n' then ['\\', 'n']
  else if character = '\r' then ['\\', 'r']
  else if character = '\t' then ['\\', 't']
  else if character.toNat = 0 then ['\\', '0']
  else if isMark character || isHidden character then
    ['\\', 'u', '\x7b'] ++ Nat.toDigits 16 character.toNat ++ ['\x7d']
  else [character]

def quoted (text : String) : String :=
  String.ofList ('"' :: (text.toList.flatMap quotedCharacter ++ ['"']))

def quotedList (texts : List String) : String :=
  "[" ++ ", ".intercalate (texts.map quoted) ++ "]"

end BenefitCasework.Text
