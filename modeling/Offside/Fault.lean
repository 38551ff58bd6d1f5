import Offside.Script.Tree
import Offside.Template.Parser

/-! Why a script cannot be lowered. -/

namespace Offside

/-- What is wrong with a cascade. -/
inductive CascadeFault where
  | stepCount (steps degrees : Nat)
  /-- A step must act on a receiver that is there. -/
  | noReceiver (degree receivers : Nat)
  | degreeJump (degree next : Nat)
  /-- Only an expression can be acted on by deeper steps. -/
  | notExpression (kind : String)
  | outside
deriving DecidableEq, Repr

def CascadeFault.reason : CascadeFault → String
  | stepCount steps degrees => toString steps ++ " steps but " ++ toString degrees ++ " degrees"
  | noReceiver degree receivers =>
    "step of degree " ++ toString degree ++ " under " ++ toString receivers ++ " receivers"
  | degreeJump degree next => "degree jumps from " ++ toString degree ++ " to " ++ toString next
  | notExpression kind => kind ++ " cannot receive a cascade"
  | outside => "virtual object outside of a cascade"

/-- What is wrong with another node. -/
inductive ShapeFault where
  | chainLength (operands operators : Nat)
  | emptyChain
  | chainEnded
  | noDeclarators
deriving DecidableEq, Repr

namespace ShapeFault

def kindName : ShapeFault → String
  | chainLength .. | emptyChain | chainEnded => "CompareChainExpression"
  | noDeclarators => "VariableDeclaration"

def reason : ShapeFault → String
  | chainLength operands operators =>
    toString operands ++ " operands for " ++ toString operators ++ " operators"
  | emptyChain => "empty comparison chain"
  | chainEnded => "comparison chain ran out of operands"
  | noDeclarators => "declaration without declarators"

end ShapeFault

/-- How the frames of a pass can be out of order. -/
inductive FrameFault where
  | secondFrame | noFrame | unopened | empty | noScope | notScope | notCascade | leftOver
deriving DecidableEq, Repr

def FrameFault.reason : FrameFault → String
  | secondFrame => "a transformer may only push one frame at a time"
  | noFrame => "pop without a matching push"
  | unopened => "no frame pushed by this transformer"
  | empty => "frame stack is empty"
  | noScope => "fresh name requested outside of any scope"
  | notScope => "statement list lowered outside of its scope"
  | notCascade => "cascade frame replaced while lowering its steps"
  | leftOver => "frames left on the stack at the end of the pass"

inductive Fault where
  | unsupportedNode (kind : String)
  | severalNodes (kind : String)
  | templateForm (form : Template.Form)
  | templateSyntax (leftover : Template.Leftover)
  /-- What is left over stands too far to the right to be pointed at. -/
  | templateWidth (column : Nat)
  | unboundPlaceholder (name : String)
  | cascade (fault : CascadeFault) (loc : Option Location)
  | shape (fault : ShapeFault)
  | unsupportedOperator (op : Script.BinaryOp)
  | boundAsyncGenerator
  | frames (fault : FrameFault)
deriving DecidableEq, Repr

namespace Fault

def message : Fault → String
  | unsupportedNode kind => "no target equivalent for node kind " ++ kind
  | severalNodes kind => kind ++ " transformation cannot expand into several nodes here"
  | templateForm form => "invalid " ++ form.name ++ " template"
  | templateSyntax leftover => "could not parse template:\n" ++ leftover.message
  | templateWidth column => "could not point at column " ++ toString column ++ " of a template"
  | unboundPlaceholder name => "template placeholder " ++ Text.quote name ++ " has no binding"
  | cascade fault _ => "malformed cascade: " ++ fault.reason
  | shape fault => "malformed " ++ fault.kindName ++ ": " ++ fault.reason
  | unsupportedOperator op => "operator " ++ op.name ++ " has no target equivalent"
  | boundAsyncGenerator => "transformer for Function not fully implemented: bound async generators"
  | frames fault => "scope stack discipline violated: " ++ fault.reason

/-- Where the fault lies, if it says. -/
def loc : Fault → Option Location
  | cascade _ loc => loc
  | _ => none

end Fault

end Offside
