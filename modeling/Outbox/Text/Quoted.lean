import Outbox.Text.Printable

/-!
# Quoted text

How a message quotes a text that it complains about: between double quotes, with a backslash
before a quote and a backslash, short names for the common controls, and the code point in
hexadecimal for every other character that does not show.
-/

namespace Outbox.Text

/-- The written form of one character inside quotes. -/
def quotedChar (c : Char) : List Char :=
  match c with
  | '"' => ['\\', '"']
  | '\\' => ['\\', '\\']
  | '\t' => ['\\', 't']
  | '\n' => ['\\', 'n']
  | '\r' => ['\\', 'r']
  | '\x00' => ['\\', '0']
  | c =>
    if isPrintable c then [c]
    else ['\\', 'u', '\x7b'] ++ Nat.toDigits 16 c.toNat ++ ['\x7d']

/-- The text between double quotes, each character in its written form. -/
def quoted (s : String) : String :=
  String.ofList ('"' :: s.toList.flatMap quotedChar ++ ['"'])

end Outbox.Text
