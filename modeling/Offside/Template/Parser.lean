import Offside.Template.Syntax
import Offside.Text.Blank
import Offside.Text.Bytes
import Offside.Text.Field
import Offside.Text.Name

/-! Reading templates. Binary operators have six levels that group to the left, above them powers,
which group to the right, then unary operators and suffixes. A part that cannot be read is left
alone, so that all that can go wrong in the end is text left over. -/

namespace Offside.Template

/-- Blanks of templates: space, tab, carriage return and line feed. -/
def isSpace (c : Char) : Bool := c == ' ' || c == '\t' || c == '\r' || c == '\n'

def skipSpaces (cs : List Char) : List Char := cs.dropWhile isSpace

/-- Takes a given text off the start. -/
def take? (text : String) (cs : List Char) : Option (List Char) :=
  if text.toList.isPrefixOf cs then some (cs.drop text.toList.length) else none

/-- A word ends where no letter, digit, underscore or dollar sign of any script follows. -/
def endsWord (cs : List Char) : Bool :=
  match cs with
  | c :: _ => !(Text.isAlphanumeric c || c == '_' || c == '$')
  | [] => true

/-- What may stand after an operator. -/
inductive Follow where
  | anything
  | unless (c : Char)
  | wordEnd

def Follow.allows : Follow → List Char → Bool
  | anything, _ => true
  | .unless c, cs => cs.head? != some c
  | wordEnd, cs => endsWord cs

/-- How an operator is written. -/
structure Spelling (α : Type) where
  text : String
  op : α
  follow : Follow := .anything

/-- The first operator of a list that the text starts with. -/
def takeOperator? {α : Type} (spellings : List (Spelling α)) (cs : List Char) :
    Option (α × List Char) :=
  spellings.findSome? fun spelling =>
    match take? spelling.text cs with
    | some rest => if spelling.follow.allows rest then some (spelling.op, rest) else none
    | none => none

inductive InfixOp where
  | binary (op : Target.BinaryOp)
  | logical (op : LogicalOp)

def InfixOp.apply (left right : Expr) : InfixOp → Expr
  | binary op => .binary op left right
  | logical op => .logical op left right

/-- The levels of left-associative operators, the tightest one first. -/
def levels : List (List (Spelling InfixOp)) :=
  [[⟨"*", .binary .mul, .unless '*'⟩, ⟨"/", .binary .div, .anything⟩,
    ⟨"%", .binary .rem, .unless '>'⟩],
   [⟨"+", .binary .add, .anything⟩, ⟨"-", .binary .sub, .anything⟩],
   [⟨"<=", .binary .lessEqual, .anything⟩, ⟨">=", .binary .greaterEqual, .anything⟩,
    ⟨"<", .binary .less, .unless '%'⟩, ⟨">", .binary .greater, .anything⟩,
    ⟨"instanceof", .binary .instanceOf, .wordEnd⟩, ⟨"in", .binary .isIn, .wordEnd⟩],
   [⟨"===", .binary .strictEqual, .anything⟩, ⟨"!==", .binary .strictNotEqual, .anything⟩,
    ⟨"==", .binary .equal, .anything⟩, ⟨"!=", .binary .notEqual, .anything⟩],
   [⟨"&&", .logical .and, .anything⟩],
   [⟨"||", .logical .or, .anything⟩]]

def unaryOperators : List (Spelling UnaryOp) :=
  [⟨"!", .not, .unless '='⟩, ⟨"~", .complement, .anything⟩, ⟨"-", .negate, .anything⟩,
   ⟨"+", .plus, .anything⟩, ⟨"typeof", .typeOf, .wordEnd⟩, ⟨"void", .void, .wordEnd⟩]

/-- Words that are no identifiers. -/
def reservedWords : List String := ["this", "return", "typeof", "void", "in", "instanceof"]

def keyword? (word : String) (cs : List Char) : Option (List Char) :=
  match take? word cs with
  | some rest => if endsWord rest then some rest else none
  | none => none

def placeholder? (cs : List Char) : Option (Expr × List Char) := do
  let (name, rest) ← Text.takeName? (skipSpaces (← take? "<%=" cs))
  let rest ← take? "%>" (skipSpaces rest)
  return (.placeholder (String.ofList name), rest)

/-- The digits at the start of a text, at least one. -/
def digits? (cs : List Char) : Option (List Char × List Char) :=
  match cs.takeWhile Char.isDigit with
  | [] => none
  | digits => some (digits, cs.dropWhile Char.isDigit)

def fraction (cs : List Char) : List Char × List Char :=
  match cs with
  | '.' :: rest =>
    match digits? rest with
    | some (digits, rest) => ('.' :: digits, rest)
    | none => ([], cs)
  | _ => ([], cs)

def exponent (cs : List Char) : List Char × List Char :=
  match cs with
  | mark :: rest =>
    if mark = 'e' || mark = 'E' then
      let (sign, rest) := match rest with
        | '+' :: rest => (['+'], rest)
        | '-' :: rest => (['-'], rest)
        | rest => ([], rest)
      match digits? rest with
      | some (digits, rest) => (mark :: sign ++ digits, rest)
      | none => ([], cs)
    else ([], cs)
  | [] => ([], cs)

def number? (cs : List Char) : Option (Expr × List Char) := do
  let (whole, rest) ← digits? cs
  let (part, rest) := fraction rest
  let (power, rest) := exponent rest
  let value ← Number.ofText? (whole ++ part ++ power)
  return (.number value, rest)

/-- A text between two quotes of one kind, without escapes. -/
def quoted? (mark : Char) : List Char → Option (Expr × List Char)
  | [] => none
  | c :: cs =>
    if c = mark then
      match cs.dropWhile (· != mark) with
      | _ :: rest => some (.string (String.ofList (cs.takeWhile (· != mark))), rest)
      | [] => none
    else none

def identifier? (cs : List Char) : Option (Expr × List Char) := do
  let (name, rest) ← Text.takeName? cs
  if reservedWords.contains (String.ofList name) then none
  else return (.identifier (String.ofList name), rest)

/-- The expressions that hold no other. -/
def atom? (cs : List Char) : Option (Expr × List Char) :=
  placeholder? cs <|> number? cs <|> quoted? '\'' cs <|> quoted? '"' cs

def word? (cs : List Char) : Option (Expr × List Char) :=
  ((keyword? "this" cs).map fun rest => (.thisObject, rest)) <|> identifier? cs

/-- What may follow an expression. -/
inductive Suffix where
  | member (name : String)
  | computed (property : Expr)
  | call (arguments : List Expr)

def Suffix.apply (expr : Expr) : Suffix → Expr
  | member name => .member expr (.identifier name) false
  | computed property => .member expr property true
  | call arguments => .call expr arguments

/-- Takes a closing bracket after what was read. -/
def closed? {α : Type} (close : Char) (parsed : α × List Char) : Option (α × List Char) :=
  match skipSpaces parsed.2 with
  | c :: rest => if c = close then some (parsed.1, rest) else none
  | [] => none

theorem length_skipSpaces_le (cs : List Char) : (skipSpaces cs).length ≤ cs.length :=
  (List.dropWhile_sublist _).length_le

private theorem level_lt_of_getElem? {level : Nat} {operators : List (Spelling InfixOp)}
    (present : levels[level]? = some operators) : level < 6 :=
  (List.getElem?_eq_some_iff.mp present).1

mutual

/-- An operand and the operators of the `level` tightest levels. Parts are read from ever shorter
texts; the tests on lengths say so and never fail. -/
def binary? (level : Nat) (cs : List Char) : Option (Expr × List Char) :=
  match level with
  | 0 => power? cs
  | level + 1 =>
    match _present : levels[level]? with
    | none => none
    | some operators =>
      match binary? level cs with
      | none => none
      | some (left, rest) =>
        if rest.length < cs.length then binaryTail? level operators left rest else none
termination_by 16 * cs.length + min level 7 + 5
decreasing_by
  · omega
  · have := level_lt_of_getElem? _present; omega
  · omega

/-- More operators of one level, each with its right operand. -/
def binaryTail? (level : Nat) (operators : List (Spelling InfixOp)) (left : Expr)
    (cs : List Char) : Option (Expr × List Char) :=
  match takeOperator? operators (skipSpaces cs) with
  | none => some (left, cs)
  | some (op, rest) =>
    if (skipSpaces rest).length < cs.length then
      match binary? level (skipSpaces rest) with
      | none => none
      | some (right, rest) =>
        if rest.length < cs.length then binaryTail? level operators (op.apply left right) rest
        else none
    else none
termination_by 16 * cs.length
decreasing_by all_goals omega

/-- A base, and its power if one can be read. -/
def power? (cs : List Char) : Option (Expr × List Char) :=
  match unary? cs with
  | none => none
  | some (base, rest) =>
    match take? "**" (skipSpaces rest) with
    | none => some (base, rest)
    | some after =>
      if (skipSpaces after).length < cs.length then
        match power? (skipSpaces after) with
        | none => some (base, rest)
        | some (exponent, rest) => some (.binary .power base exponent, rest)
      else none
termination_by 16 * cs.length + 4
decreasing_by all_goals omega

/-- A unary operator with its operand. Where no operand can be read, the operator is none. -/
def unary? (cs : List Char) : Option (Expr × List Char) :=
  match takeOperator? unaryOperators cs with
  | none => suffixed? cs
  | some (op, rest) =>
    if (skipSpaces rest).length < cs.length then
      match unary? (skipSpaces rest) with
      | none => suffixed? cs
      | some (argument, rest) => some (.unary op argument, rest)
    else none
termination_by 16 * cs.length + 3
decreasing_by all_goals omega

def suffixed? (cs : List Char) : Option (Expr × List Char) :=
  match primary? cs with
  | none => none
  | some (expr, rest) => if rest.length < cs.length then some (suffixes expr rest) else none
termination_by 16 * cs.length + 2
decreasing_by all_goals omega

def suffixes (expr : Expr) (cs : List Char) : Expr × List Char :=
  match suffix? (skipSpaces cs) with
  | none => (expr, cs)
  | some (suffix, rest) =>
    if rest.length < cs.length then suffixes (suffix.apply expr) rest else (expr, cs)
termination_by 16 * cs.length + 1
decreasing_by
  · have := length_skipSpaces_le cs; omega
  · omega

def suffix? (cs : List Char) : Option (Suffix × List Char) :=
  match cs with
  | '.' :: rest =>
    (Text.takeName? (skipSpaces rest)).map fun (name, rest) => (.member (String.ofList name), rest)
  | '[' :: rest =>
    ((binary? levels.length (skipSpaces rest)).bind (closed? ']')).map fun (property, rest) =>
      (.computed property, rest)
  | '(' :: rest =>
    (closed? ')' (items (skipSpaces rest))).map fun (arguments, rest) => (.call arguments, rest)
  | _ => none
termination_by 16 * cs.length
decreasing_by
  all_goals have := length_skipSpaces_le rest; simp only [List.length_cons]; omega

/-- Expressions with commas between them. A comma that no expression follows is left alone. -/
def items (cs : List Char) : List Expr × List Char :=
  match binary? levels.length (skipSpaces cs) with
  | none => ([], cs)
  | some (first, rest) =>
    if (skipSpaces rest).length < cs.length then
      let (more, rest) := moreItems (skipSpaces rest)
      (first :: more, rest)
    else ([], cs)
termination_by 16 * cs.length + 13
decreasing_by
  · have := length_skipSpaces_le cs; omega
  · omega

def moreItems (cs : List Char) : List Expr × List Char :=
  match cs with
  | ',' :: rest =>
    match binary? levels.length (skipSpaces rest) with
    | none => ([], ',' :: rest)
    | some (next, after) =>
      if (skipSpaces after).length < rest.length + 1 then
        let (more, left) := moreItems (skipSpaces after)
        (next :: more, left)
      else ([], ',' :: rest)
  | _ => ([], cs)
termination_by 16 * cs.length
decreasing_by
  · have := length_skipSpaces_le rest; simp only [List.length_cons]; omega
  · simp only [List.length_cons]; omega

def primary? (cs : List Char) : Option (Expr × List Char) :=
  match atom? cs with
  | some parsed => some parsed
  | none =>
    match cs with
    | '[' :: rest =>
      (closed? ']' (items (skipSpaces rest))).map fun (elements, rest) => (.array elements, rest)
    | '(' :: rest => (binary? levels.length (skipSpaces rest)).bind (closed? ')')
    | _ => word? cs
termination_by 16 * cs.length + 1
decreasing_by
  all_goals have := length_skipSpaces_le rest; simp only [List.length_cons]; omega

end

def expression? (cs : List Char) : Option (Expr × List Char) := binary? levels.length cs

def statement? (cs : List Char) : Option (Stmt × List Char) :=
  match keyword? "return" cs with
  | some rest =>
    match expression? (skipSpaces rest) with
    | some (argument, rest) => some (.returning (some argument), rest)
    | none => some (.returning none, rest)
  | none => (expression? cs).map fun (value, rest) => (.expression value, rest)

/-- Statements after the first, each after a semicolon. -/
def moreStatements (cs : List Char) : List Stmt × List Char :=
  match cs with
  | ';' :: rest =>
    match statement? (skipSpaces rest) with
    | none => ([], ';' :: rest)
    | some (next, after) =>
      if (skipSpaces after).length < rest.length + 1 then
        let (more, left) := moreStatements (skipSpaces after)
        (next :: more, left)
      else ([], ';' :: rest)
  | _ => ([], cs)
termination_by cs.length

def statements (cs : List Char) : List Stmt × List Char :=
  match statement? (skipSpaces cs) with
  | none => ([], cs)
  | some (first, rest) =>
    let (more, rest) := moreStatements (skipSpaces rest)
    (first :: more, rest)

/-- Blanks, and one semicolon among them. -/
def skipEnd (cs : List Char) : List Char :=
  match skipSpaces cs with
  | ';' :: rest => skipSpaces rest
  | rest => rest

/-- A template text of which something is left over. The offset counts bytes. -/
structure Leftover where
  source : String
  offset : Nat
deriving DecidableEq, Repr

namespace Leftover

/-- The text before the offset, and from there on. -/
def parts (leftover : Leftover) : List Char × List Char :=
  (Text.splitBytes? leftover.offset leftover.source.toList).getD (leftover.source.toList, [])

/-- The part of the line before the offset. -/
def lineStart (leftover : Leftover) : List Char :=
  (leftover.parts.1.reverse.takeWhile (· != '\n')).reverse

/-- Columns of templates count bytes, from one on. -/
def column (leftover : Leftover) : Nat := Text.byteLength leftover.lineStart + 1

/-- Line, and a mark below it at the first character that was left over. -/
def message (leftover : Leftover) : String :=
  let (before, after) := leftover.parts
  let line := Text.dropBlanksRight (leftover.lineStart ++ after.takeWhile (· != '\n'))
  "0: at line " ++ toString (before.count '\n' + 1) ++ ", in Eof:\n" ++ String.ofList line ++ "\n" ++
    String.ofList (Text.alignRight leftover.column ['^']) ++ "\n\n"

end Leftover

/-- The statements of a template text, which must be used up. -/
def parse (source : String) : Except Leftover (List Stmt) :=
  let (body, rest) := statements source.toList
  match skipEnd rest with
  | [] => .ok body
  | left => .error ⟨source, Text.byteLength source.toList - Text.byteLength left⟩

end Offside.Template
