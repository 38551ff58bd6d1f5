import Offside.Text.Printable

/-! Quoted text as messages show it: in double quotes, on one line, with every character that would
not show replaced by an escape. -/

namespace Offside.Text

def hexDigits (n : Nat) : List Char := Nat.toDigits 16 n

/-- An escape by number, `\\u` and the code point in braces. -/
def codePointEscape (c : Char) : List Char :=
  ['\\', 'u', '\x7b'] ++ hexDigits c.toNat ++ ['\x7d']

/-- One character between quotes. -/
def escapeChar (c : Char) : List Char :=
  match c with
  | '\x00' => ['\\', '0']
  | '\t' => ['\\', 't']
  | '\r' => ['\\', 'r']
  | '\n' => ['\\', 'n']
  | '"' => ['\\', '"']
  | '\\' => ['\\', '\\']
  | _ =>
    if ' ' ≤ c && c ≤ '~' then [c]
    else if isExtender c || !isPrintable c then codePointEscape c
    else [c]

def quoteChars (cs : List Char) : List Char := '"' :: cs.flatMap escapeChar ++ ['"']

/-- A text in double quotes. -/
def quote (s : String) : String := String.ofList (quoteChars s.toList)

end Offside.Text
