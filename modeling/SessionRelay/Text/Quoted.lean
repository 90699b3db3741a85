import SessionRelay.Text.Printable

/-!
# Quotations

`quoted` shows a text between double quotes on one line: quotes and backslashes are escaped, and so
is every character without a printed form.
-/

namespace SessionRelay.Text

/-- The lower-case hexadecimal digits of a number. -/
def hexChars (n : Nat) : List Char := Nat.toDigits 16 n

/-- One character of a quotation. -/
def quotedChar (c : Char) : List Char :=
  if c = '"' then ['\\', '"']
  else if c = '\\' then ['\\', '\\']
  else if c = '\t' then ['\\', 't']
  else if c = '\r' then ['\\', 'r']
  else if c = '\n' then ['\\', 'n']
  else if c = '\x00' then ['\\', '0']
  else if isPrintable c then [c]
  else ['\\', 'u', '\x7b'] ++ hexChars c.toNat ++ ['\x7d']

def quoted (s : String) : String :=
  String.ofList ('"' :: s.toList.flatMap quotedChar ++ ['"'])

end SessionRelay.Text
