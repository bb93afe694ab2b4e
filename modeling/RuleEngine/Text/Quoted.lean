import RuleEngine.Text.Unprintable

/-!
# Quoted strings

The quoted form of a text puts it between double quotes and escapes what could not be read inside
them: the quote and the backslash, the named controls, and every character without a glyph, which
is written by its code point in hexadecimal.
-/

namespace RuleEngine
namespace Text

/-- The digits of a number in base sixteen, lower case and without padding. -/
def hexadecimal (n : Nat) : List Char :=
  Nat.toDigits 16 n

def escape (c : Char) : List Char :=
  match c with
  | '\t' => ['\\', 't']
  | '\r' => ['\\', 'r']
  | '\n' => ['\\', 'n']
  | '\x00' => ['\\', '0']
  | '"' => ['\\', '"']
  | '\\' => ['\\', '\\']
  | c =>
    if isUnprintable c then
      ['\\', 'u', '\x7b'] ++ hexadecimal c.toNat ++ ['\x7d']
    else
      [c]

def quoted (s : String) : String :=
  String.ofList ('"' :: s.toList.flatMap escape ++ ['"'])

end Text
end RuleEngine
