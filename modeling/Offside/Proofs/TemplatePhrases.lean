import Offside.Template.Parser

/-! Templates as they are written. A phrase is an expression together with the spelling of its numbers
and strings. It is printed with a space on both sides of an operator between two operands and after an
operator before one, and with parentheses only where the ranks of the operators ask for them. -/

namespace Offside.Template

/-- A text that is one name from its start to its end. -/
structure Name where
  chars : List Char
  whole : Text.takeName? chars = some (chars, [])

def Name.toString (name : Name) : String := String.ofList name.chars

/-- A run of decimal digits. -/
structure Digits where
  chars : List Char
  nonempty : chars ≠ []
  decimal : ∀ c ∈ chars, c.isDigit = true

inductive Sign where
  | plus | minus

def Sign.char : Sign → Char
  | plus => '+'
  | minus => '-'

/-- An exponent with its mark. -/
structure Power where
  mark : Char
  known : mark = 'e' ∨ mark = 'E'
  sign : Option Sign
  digits : Digits

namespace Power

def print (power : Power) : List Char :=
  power.mark :: (power.sign.elim [] ([·.char]) ++ power.digits.chars)

def value (power : Power) : Int :=
  match power.sign with
  | some .minus => -(Number.digitsValue power.digits.chars : Int)
  | _ => Number.digitsValue power.digits.chars

end Power

/-- A number as it is written. -/
structure Numeral where
  whole : Digits
  fraction : Option Digits
  power : Option Power

namespace Numeral

def print (numeral : Numeral) : List Char :=
  numeral.whole.chars ++ (numeral.fraction.elim [] ('.' :: ·.chars) ++
    numeral.power.elim [] Power.print)

/-- All digits, with the point moved behind the last one. -/
def value (numeral : Numeral) : Number :=
  let fraction := numeral.fraction.elim [] Digits.chars
  Number.ofDecimal (Number.digitsValue (numeral.whole.chars ++ fraction))
    (numeral.power.elim 0 Power.value - fraction.length)

end Numeral

/-- A text that does not hold the mark it is put between. -/
structure Quotation where
  mark : Char
  known : mark = '\'' ∨ mark = '"'
  chars : List Char
  unquoted : mark ∉ chars

def Quotation.print (quotation : Quotation) : List Char :=
  quotation.mark :: (quotation.chars ++ [quotation.mark])

inductive Phrase where
  | placeholder (name : Name)
  | identifier (name : Name) (ordinary : name.toString ∉ reservedWords)
  | number (numeral : Numeral)
  | string (quotation : Quotation)
  | thisObject
  | array (elements : List Phrase)
  | unary (op : UnaryOp) (offered : op ≠ .delete) (argument : Phrase)
  | binary (op : InfixOp) (left right : Phrase)
  | member (object : Phrase) (name : Name)
  | computed (object property : Phrase)
  | call (callee : Phrase) (arguments : List Phrase)

namespace InfixOp

def name : InfixOp → String
  | binary op => op.name
  | logical op => op.name

/-- How tightly an operator binds. -/
def rank : InfixOp → Nat
  | logical .or => 1
  | logical .and => 2
  | binary .equal | binary .notEqual | binary .strictEqual | binary .strictNotEqual => 3
  | binary .less | binary .greater | binary .lessEqual | binary .greaterEqual | binary .isIn
  | binary .instanceOf => 4
  | binary .add | binary .sub => 5
  | binary .mul | binary .div | binary .rem => 6
  | binary .power => 7

/-- The least rank of a left operand without parentheses. Powers group to the right, all other
operators to the left. -/
def leftRank (op : InfixOp) : Nat := if op.rank = 7 then 8 else op.rank

/-- The least rank of a right operand without parentheses. -/
def rightRank (op : InfixOp) : Nat := if op.rank = 7 then 7 else op.rank + 1

end InfixOp

/-- Operators before an operand have rank eight, everything that ends in itself or in a suffix has
rank nine. -/
def Phrase.rank : Phrase → Nat
  | binary op .. => op.rank
  | unary .. => 8
  | _ => 9

/-- Puts a text between parentheses if it binds less tightly than its place asks for. -/
def enclose (least rank : Nat) (text : List Char) : List Char :=
  if rank < least then '(' :: (text ++ [')']) else text

mutual

def Phrase.print : Phrase → List Char
  | .placeholder name => '<' :: '%' :: '=' :: ' ' :: (name.chars ++ [' ', '%', '>'])
  | .identifier name _ => name.chars
  | .number numeral => numeral.print
  | .string quotation => quotation.print
  | .thisObject => ['t', 'h', 'i', 's']
  | .array elements => '[' :: ([',', ' '].intercalate (printAll elements) ++ [']'])
  | .unary op _ argument => op.name.toList ++ ' ' :: enclose 8 argument.rank argument.print
  | .binary op left right =>
    enclose op.leftRank left.rank left.print ++
      ' ' :: (op.name.toList ++ ' ' :: enclose op.rightRank right.rank right.print)
  | .member object name => enclose 9 object.rank object.print ++ '.' :: name.chars
  | .computed object property =>
    enclose 9 object.rank object.print ++ '[' :: (property.print ++ [']'])
  | .call callee arguments =>
    enclose 9 callee.rank callee.print ++ '(' :: ([',', ' '].intercalate (printAll arguments) ++ [')'])

def printAll : List Phrase → List (List Char)
  | [] => []
  | phrase :: phrases => phrase.print :: printAll phrases

end

mutual

/-- The expression that a phrase spells. -/
def Phrase.meaning : Phrase → Expr
  | .placeholder name => .placeholder name.toString
  | .identifier name _ => .identifier name.toString
  | .number numeral => .number numeral.value
  | .string quotation => .string (String.ofList quotation.chars)
  | .thisObject => .thisObject
  | .array elements => .array (meanings elements)
  | .unary op _ argument => .unary op argument.meaning
  | .binary (.binary op) left right => .binary op left.meaning right.meaning
  | .binary (.logical op) left right => .logical op left.meaning right.meaning
  | .member object name => .member object.meaning (.identifier name.toString) false
  | .computed object property => .member object.meaning property.meaning true
  | .call callee arguments => .call callee.meaning (meanings arguments)

def meanings : List Phrase → List Expr
  | [] => []
  | phrase :: phrases => phrase.meaning :: meanings phrases

end

inductive Sentence where
  | expression (value : Phrase)
  | returning (argument : Option Phrase)

namespace Sentence

def print : Sentence → List Char
  | expression value => value.print
  | returning none => ['r', 'e', 't', 'u', 'r', 'n']
  | returning (some argument) => ['r', 'e', 't', 'u', 'r', 'n'] ++ ' ' :: argument.print

def meaning : Sentence → Stmt
  | expression value => .expression value.meaning
  | returning argument => .returning (argument.map Phrase.meaning)

end Sentence

/-- The text of a template. -/
def print (sentences : List Sentence) : String :=
  String.ofList ([';', ' '].intercalate (sentences.map Sentence.print))

end Offside.Template
