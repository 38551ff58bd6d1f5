import Offside.Number.Decimal
import Offside.Text.Quoted

/-! Literal values, the same in both trees. -/

namespace Offside

inductive Literal where
  | null
  | bool (value : Bool)
  | number (value : Number)
  | string (value : String)
deriving DecidableEq, Repr

namespace Literal

def render : Literal → String
  | null => "null"
  | bool true => "true"
  | bool false => "false"
  | number value => value.render
  | string value => Text.quote value

end Literal

end Offside
