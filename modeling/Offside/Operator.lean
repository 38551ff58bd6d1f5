/-! Operators of the script language and of its target. Most are spelled alike on both sides; the power
operator is respelled, and floor division has no operator in the target. -/

namespace Offside

inductive UnaryOp where
  | negate | plus | not | complement | typeOf | void | delete
deriving DecidableEq, Repr

namespace UnaryOp

def name : UnaryOp → String
  | negate => "-"
  | plus => "+"
  | not => "!"
  | complement => "~"
  | typeOf => "typeof"
  | void => "void"
  | delete => "delete"

def all : List UnaryOp := [negate, plus, not, complement, typeOf, void, delete]

def ofName? (name : String) : Option UnaryOp := all.find? fun op => op.name == name

end UnaryOp

inductive LogicalOp where
  | and | or
deriving DecidableEq, Repr

namespace LogicalOp

def name : LogicalOp → String
  | and => "&&"
  | or => "||"

def all : List LogicalOp := [and, or]

def ofName? (name : String) : Option LogicalOp := all.find? fun op => op.name == name

end LogicalOp

namespace Target

inductive BinaryOp where
  | add | sub | mul | div | rem | power
  | equal | notEqual | strictEqual | strictNotEqual
  | less | greater | lessEqual | greaterEqual
  | isIn | instanceOf
deriving DecidableEq, Repr

namespace BinaryOp

def name : BinaryOp → String
  | add => "+"
  | sub => "-"
  | mul => "*"
  | div => "/"
  | rem => "%"
  | power => "**"
  | equal => "=="
  | notEqual => "!="
  | strictEqual => "==="
  | strictNotEqual => "!=="
  | less => "<"
  | greater => ">"
  | lessEqual => "<="
  | greaterEqual => ">="
  | isIn => "in"
  | instanceOf => "instanceof"

def all : List BinaryOp :=
  [add, sub, mul, div, rem, power, equal, notEqual, strictEqual, strictNotEqual, less, greater,
   lessEqual, greaterEqual, isIn, instanceOf]

def ofName? (name : String) : Option BinaryOp := all.find? fun op => op.name == name

end BinaryOp

inductive AssignOp where
  | assign | add | sub | mul | div | rem | power
deriving DecidableEq, Repr

namespace AssignOp

def name : AssignOp → String
  | assign => "="
  | add => "+="
  | sub => "-="
  | mul => "*="
  | div => "/="
  | rem => "%="
  | power => "**="

def all : List AssignOp := [assign, add, sub, mul, div, rem, power]

def ofName? (name : String) : Option AssignOp := all.find? fun op => op.name == name

end AssignOp

end Target

namespace Script

inductive BinaryOp where
  | add | sub | mul | div | rem | floorDiv | power
  | equal | notEqual | less | greater | lessEqual | greaterEqual
  | isIn
deriving DecidableEq, Repr

namespace BinaryOp

def name : BinaryOp → String
  | add => "+"
  | sub => "-"
  | mul => "*"
  | div => "/"
  | rem => "%"
  | floorDiv => "//"
  | power => "^"
  | equal => "=="
  | notEqual => "!="
  | less => "<"
  | greater => ">"
  | lessEqual => "<="
  | greaterEqual => ">="
  | isIn => "in"

def all : List BinaryOp :=
  [add, sub, mul, div, rem, floorDiv, power, equal, notEqual, less, greater, lessEqual,
   greaterEqual, isIn]

def ofName? (name : String) : Option BinaryOp := all.find? fun op => op.name == name

/-- Comparisons are the operators that may be chained. -/
def isComparison : BinaryOp → Bool
  | equal | notEqual | less | greater | lessEqual | greaterEqual => true
  | _ => false

/-- The same operator in the target. -/
def target? : BinaryOp → Option Target.BinaryOp
  | add => some .add
  | sub => some .sub
  | mul => some .mul
  | div => some .div
  | rem => some .rem
  | floorDiv => none
  | power => some .power
  | equal => some .equal
  | notEqual => some .notEqual
  | less => some .less
  | greater => some .greater
  | lessEqual => some .lessEqual
  | greaterEqual => some .greaterEqual
  | isIn => some .isIn

theorem target?_eq_none_iff (op : BinaryOp) : op.target? = none ↔ op = floorDiv := by
  cases op <;> simp [target?]

end BinaryOp

inductive AssignOp where
  | assign | add | sub | mul | div | power
deriving DecidableEq, Repr

namespace AssignOp

def name : AssignOp → String
  | assign => "="
  | add => "+="
  | sub => "-="
  | mul => "*="
  | div => "/="
  | power => "^="

def all : List AssignOp := [assign, add, sub, mul, div, power]

def ofName? (name : String) : Option AssignOp := all.find? fun op => op.name == name

/-- The same operator in the target. -/
def target : AssignOp → Target.AssignOp
  | assign => .assign
  | add => .add
  | sub => .sub
  | mul => .mul
  | div => .div
  | power => .power

end AssignOp

end Script

end Offside
