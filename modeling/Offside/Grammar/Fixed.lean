import Offside.Grammar

/-! A grammar that reads any tokens as one given script. It keeps the tokens it was given, and can be
told to refuse a token or the end. -/

namespace Offside.Grammar

structure Fixed where
  program : Script.Program := {}
  /-- How many tokens are taken before one is refused. -/
  limit : Option Nat := none
  refusesEnd : Bool := false

inductive Fixed.Refusal where
  | token (kind : Kind)
  | ending
deriving DecidableEq, Repr

def Fixed.Refusal.message : Fixed.Refusal → String
  | token kind => "refused " ++ kind.name
  | ending => "refused to finish"

/-- The state is the list of the tokens taken. -/
def fixed (script : Fixed) : Grammar Fixed.Refusal (List Located) where
  start := []
  push taken located :=
    if script.limit = some taken.length then .error (.token located.kind)
    else .ok (taken ++ [located])
  finish _ := if script.refusesEnd then .error .ending else .ok script.program
  message := Fixed.Refusal.message

end Offside.Grammar
