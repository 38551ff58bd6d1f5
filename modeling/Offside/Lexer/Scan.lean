import Offside.Text.Blank
import Offside.Text.Bytes
import Offside.Text.Word

/-! Scanners. A scanner looks at the start of a text and says how many characters it takes. -/

namespace Offside

/-- What a rule makes of the start of a text. Lengths count characters. -/
inductive Scan where
  | noMatch
  | matched (length : Nat)
  /-- The rule applies, but what closes it never comes. -/
  | unterminated
deriving DecidableEq, Repr

namespace Scan

/-- A scan that takes this many characters. Taking none is no match. -/
def ofLength : Nat → Scan
  | 0 => noMatch
  | n + 1 => matched (n + 1)

/-- The scan of a text, with its length in bytes. -/
def inBytes (cs : List Char) : Scan → Scan
  | noMatch => noMatch
  | matched n => matched (Text.byteLength (cs.take n))
  | unterminated => unterminated

/-- How many characters at the start satisfy a predicate. -/
def run (p : Char → Bool) (cs : List Char) : Nat := (cs.takeWhile p).length

/-- The length of a given start, or zero. -/
def literal (word cs : List Char) : Nat := if word.isPrefixOf cs then word.length else 0

/-- The first length that is not zero. -/
def firstLength (lengths : List Nat) : Nat := (lengths.find? (0 < ·)).getD 0

def oneOf (chars : List Char) : List Char → Nat
  | c :: _ => if chars.contains c then 1 else 0
  | [] => 0

/-- Two characters, each of its own set. -/
def pair (first second : List Char) : List Char → Nat
  | a :: b :: _ => if first.contains a && second.contains b then 2 else 0
  | _ => 0

/-- One of the words, where no character of a word follows it. -/
def wholeWord (words : List String) (cs : List Char) : Nat :=
  match words.find? fun word =>
      word.toList.isPrefixOf cs && !(cs.drop word.toList.length).head?.any Text.isWord with
  | some word => word.toList.length
  | none => 0

/-- The rest of a string after its opening quote. A backslash takes the character after it along. -/
def closeQuote (taken : Nat) : List Char → Scan
  | [] => unterminated
  | ['\\'] => unterminated
  | '\\' :: _ :: cs => closeQuote (taken + 2) cs
  | c :: cs => if c = '\'' then matched (taken + 1) else closeQuote (taken + 1) cs

/-- A string in single quotes. -/
def quoted : List Char → Scan
  | '\'' :: cs => closeQuote 1 cs
  | _ => noMatch

/-- From a hash to the end of the line. -/
def comment : List Char → Nat
  | '#' :: cs => 1 + run (· != '\n') cs
  | _ => 0

def blanks (cs : List Char) : Nat := run (fun c => c == ' ' || c == '\t') cs

/-- All blanks of any kind, if a line feed is among them. -/
def newline (cs : List Char) : Nat :=
  let blank := run Text.isBlank cs
  if (cs.take blank).contains '\n' then blank else 0

def isIdentifierStart (c : Char) : Bool := c.isAlpha || c == '_'

def identifier : List Char → Nat
  | c :: cs => if isIdentifierStart c then 1 + run Text.isAsciiWord cs else 0
  | [] => 0

def isHexDigit (c : Char) : Bool := c.isDigit || 'a' ≤ c && c ≤ 'f' || 'A' ≤ c && c ≤ 'F'

def isBinaryDigit (c : Char) : Bool := c == '0' || c == '1'

def isOctalDigit (c : Char) : Bool := '0' ≤ c && c ≤ '7'

/-- A zero, a mark that names the radix, and at least one digit. -/
def radix (mark : Char) (isDigit : Char → Bool) : List Char → Nat
  | '0' :: c :: cs =>
    if c = mark then
      match run isDigit cs with
      | 0 => 0
      | n => 2 + n
    else 0
  | _ => 0

/-- A point with digits after it. -/
def fraction : List Char → Nat
  | '.' :: cs =>
    match run Char.isDigit cs with
    | 0 => 0
    | n => 1 + n
  | _ => 0

/-- A power of ten, with a minus sign or without. -/
def exponent : List Char → Nat
  | c :: cs =>
    if c = 'e' || c = 'E' then
      let sign := oneOf ['-'] cs
      match run Char.isDigit (cs.drop sign) with
      | 0 => 0
      | n => 1 + sign + n
    else 0
  | [] => 0

def decimal (cs : List Char) : Nat :=
  match run Char.isDigit cs with
  | 0 => 0
  | whole =>
    let part := fraction (cs.drop whole)
    whole + part + exponent (cs.drop (whole + part))

def number (cs : List Char) : Nat :=
  firstLength [radix 'x' isHexDigit cs, radix 'b' isBinaryDigit cs, radix 'o' isOctalDigit cs,
    decimal cs]

/-- A tilde, a star and any number of tildes. -/
def cascade : List Char → Nat
  | '~' :: '*' :: cs => 2 + run (· == '~') cs
  | _ => 0

end Scan

end Offside
