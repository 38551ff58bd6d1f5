/-! Positions in a text by line and column, and the stretches between two of them. Lines count from
one and columns, in characters, from zero. -/

namespace Offside

structure Position where
  line : Nat
  column : Nat
deriving DecidableEq, Repr

namespace Position

/-- Reading order: by line, and within a line by column. -/
def before (a b : Position) : Bool := a.line < b.line || a.line == b.line && a.column < b.column

def min (a b : Position) : Position := if b.before a then b else a

def max (a b : Position) : Position := if a.before b then b else a

def render (p : Position) : String := toString p.line ++ ":" ++ toString p.column

end Position

/-- A stretch of text from one position to another. -/
structure Location where
  start : Position
  stop : Position
deriving DecidableEq, Repr

namespace Location

/-- The least stretch that reaches from the earlier start to the later end. -/
def join (a b : Location) : Location := ⟨a.start.min b.start, a.stop.max b.stop⟩

/-- The stretch of two nodes of which one may have none. -/
def join? : Option Location → Option Location → Option Location
  | some a, some b => some (a.join b)
  | a, b => a.or b

def render (l : Location) : String := l.start.render ++ "-" ++ l.stop.render

end Location

end Offside
