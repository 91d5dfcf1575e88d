import BytecodeMutation.Text.Unprintable

/-! Text in double quotes with everything that could mislead the eye written as an escape. -/

namespace BytecodeMutation.Text

def hexDigit (n : Nat) : Char := if n < 10 then Char.ofNat (48 + n) else Char.ofNat (87 + n)

/-- A number in lower-case hexadecimal digits. -/
def hexDigits (n : Nat) : List Char :=
  if n < 16 then [hexDigit n] else hexDigits (n / 16) ++ [hexDigit (n % 16)]
termination_by n

/-- One character inside quotes: backslash escapes for NUL, tab, line feed, carriage return, the
double quote and the backslash, and the code point in braces for any other unprintable one. -/
def showChar (c : Char) : List Char :=
  match c with
  | '\x00' => ['\\', '0']
  | '\t' => ['\\', 't']
  | '\n' => ['\\', 'n']
  | '\r' => ['\\', 'r']
  | '\x22' => ['\\', '\x22']
  | '\\' => ['\\', '\\']
  | c =>
    if isUnprintable c then ['\\', 'u', '\x7b'] ++ hexDigits c.toNat ++ ['\x7d'] else [c]

def quoted (s : String) : String :=
  String.ofList ('\x22' :: s.toList.flatMap showChar ++ ['\x22'])

end BytecodeMutation.Text
