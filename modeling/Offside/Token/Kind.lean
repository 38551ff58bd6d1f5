/-! Kinds of tokens. Every kind has a name, and the kinds of keywords, brackets and punctuation are
named by their spelling, so that the name of a kind also reads it back from a text. -/

namespace Offside

inductive Keyword where
  | forWord | ifWord | elseWord | defWord | thisWord | inWord | onWord | doWord | returnWord
  | whileWord | functionWord | yieldWord | breakWord | continueWord | tryWord | finallyWord
deriving DecidableEq, Repr

namespace Keyword

def name : Keyword → String
  | forWord => "for"
  | ifWord => "if"
  | elseWord => "else"
  | defWord => "def"
  | thisWord => "this"
  | inWord => "in"
  | onWord => "on"
  | doWord => "do"
  | returnWord => "return"
  | whileWord => "while"
  | functionWord => "function"
  | yieldWord => "yield"
  | breakWord => "break"
  | continueWord => "continue"
  | tryWord => "try"
  | finallyWord => "finally"

def all : List Keyword :=
  [forWord, ifWord, elseWord, defWord, thisWord, inWord, onWord, doWord, returnWord, whileWord,
   functionWord, yieldWord, breakWord, continueWord, tryWord, finallyWord]

end Keyword

/-- Words that stand for a value. -/
inductive Constant where
  | trueValue | falseValue | nullValue | undefinedValue
deriving DecidableEq, Repr

namespace Constant

def name : Constant → String
  | trueValue => "true"
  | falseValue => "false"
  | nullValue => "null"
  | undefinedValue => "undefined"

def all : List Constant := [trueValue, falseValue, nullValue, undefinedValue]

end Constant

inductive Bracket where
  | curly | square | round
deriving DecidableEq, Repr

/-- A newline token holds line breaks with all the blanks around them. Indents and dedents are not
written in the text: layout adds them. -/
inductive Kind where
  | string | comment | blanks | newline
  | keyword (word : Keyword)
  | opening (bracket : Bracket)
  | closing (bracket : Bracket)
  | number
  | constant (word : Constant)
  | identifier
  | thinArrow | fatArrow | compare | reassign | define | assign
  | comma | dot | colon
  | cascade | linear | scalar | power
  | indent | dedent
deriving DecidableEq, Repr

namespace Kind

def name : Kind → String
  | string => "string"
  | comment => "comment"
  | blanks => "ws"
  | newline => "nl"
  | keyword word => word.name
  | opening .curly => "\x7b"
  | opening .square => "["
  | opening .round => "("
  | closing .curly => "\x7d"
  | closing .square => "]"
  | closing .round => ")"
  | number => "number"
  | constant word => word.name
  | identifier => "id"
  | thinArrow => "->"
  | fatArrow => "=>"
  | compare => "compare"
  | reassign => "reassign"
  | define => ":="
  | assign => "="
  | comma => ","
  | dot => "."
  | colon => ":"
  | cascade => "cascade"
  | linear => "linear"
  | scalar => "scalar"
  | power => "pow"
  | indent => "indent"
  | dedent => "dedent"

def all : List Kind :=
  [string, comment, blanks, newline] ++ Keyword.all.map keyword ++
  [opening .curly, closing .curly, opening .square, closing .square, opening .round,
   closing .round, number] ++ Constant.all.map constant ++
  [identifier, thinArrow, fatArrow, compare, reassign, define, assign, comma, dot, colon, cascade,
   linear, scalar, power, indent, dedent]

theorem mem_all (kind : Kind) : kind ∈ all := by
  cases kind with
  | keyword word => cases word <;> decide
  | opening bracket => cases bracket <;> decide
  | closing bracket => cases bracket <;> decide
  | constant word => cases word <;> decide
  | _ => decide

def ofName? (name : String) : Option Kind := all.find? fun kind => kind.name == name

private theorem name_injective : ∀ a ∈ all, ∀ b ∈ all, a.name = b.name → a = b := by decide +kernel

theorem ofName?_eq_some_iff (text : String) (kind : Kind) :
    ofName? text = some kind ↔ kind.name = text := by
  constructor
  · intro found
    simpa using List.find?_some found
  · rintro rfl
    unfold ofName?
    cases found : all.find? fun other => other.name == kind.name with
    | none =>
      have := List.find?_eq_none.mp found kind (mem_all kind)
      simp at this
    | some other =>
      have same : other.name = kind.name := by simpa using List.find?_some found
      rw [name_injective other (mem_all other) kind (mem_all kind) same]

/-- Trivia: a grammar never sees it. -/
def isTrivia : Kind → Bool
  | blanks | comment => true
  | _ => false

/-- Kinds that layout adds, and no text spells. -/
def isPseudo : Kind → Bool
  | indent | dedent => true
  | _ => false

/-- The bracket that closes this one. -/
def closing? : Kind → Option Kind
  | opening bracket => some (closing bracket)
  | _ => none

end Kind

end Offside
