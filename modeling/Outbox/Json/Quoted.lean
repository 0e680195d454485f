/-!
# JSON strings

How a text is written as a JSON string: a backslash before a quote and a backslash, the short
names that JSON has for five of the controls, `\u` and four digits for the others.
-/

namespace Outbox.Json

/-- The written form of one character inside a JSON string. -/
def quotedChar (c : Char) : List Char :=
  match c with
  | '"' => ['\\', '"']
  | '\\' => ['\\', '\\']
  | '\x08' => ['\\', 'b']
  | '\x0c' => ['\\', 'f']
  | '\n' => ['\\', 'n']
  | '\r' => ['\\', 'r']
  | '\t' => ['\\', 't']
  | c =>
    if c.toNat < 0x20 then ['\\', 'u'] ++ (Nat.toDigits 16 c.toNat).leftpad 4 '0' else [c]

/-- The text as a JSON string. -/
def quoted (s : String) : String :=
  String.ofList ('"' :: s.toList.flatMap quotedChar ++ ['"'])

end Outbox.Json
