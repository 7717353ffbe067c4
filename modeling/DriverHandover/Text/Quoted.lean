import DriverHandover.Text.Unprintable

/-!
# Quoted text

A text as it is shown inside a message: between double quotes, with the characters that would end
or break the quotation written as escapes.

## Main definitions

* `Text.quoted` – a text in quotation.
-/

namespace DriverHandover.Text

/-- One character inside a quotation. -/
def quotedChar (c : Char) : List Char :=
  match c with
  | '\x00' => ['\\', '0']
  | '\t' => ['\\', 't']
  | '\r' => ['\\', 'r']
  | '\n' => ['\\', 'n']
  | '\\' => ['\\', '\\']
  | '"' => ['\\', '"']
  | c =>
    if isUnprintable c then ['\\', 'u', '\x7b'] ++ Nat.toDigits 16 c.toNat ++ ['\x7d'] else [c]

/-- A text in double quotes. -/
def quoted (s : String) : String :=
  String.ofList (['"'] ++ s.toList.flatMap quotedChar ++ ['"'])

end DriverHandover.Text
