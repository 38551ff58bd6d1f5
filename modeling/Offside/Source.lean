import Offside.Text.Bytes
import Offside.Text.Quoted
import Offside.Position

/-! Source texts and spans of bytes in them. A source has an identity of its own: two sources with
the same text are still two, and their spans never meet. -/

namespace Offside

structure Source where
  name : String
  text : String
  /-- Tells apart sources of the same name and text. -/
  id : Nat := 0
deriving DecidableEq, Repr

namespace Source

def anonymous (text : String) : Source := ⟨"<anonymous>", text, 0⟩

def chars (source : Source) : List Char := source.text.toList

/-- Length in bytes. -/
def length (source : Source) : Nat := Text.byteLength source.chars

def isEmpty (source : Source) : Bool := source.chars.isEmpty

/-- One line that says which source this is. -/
def describe (source : Source) : String :=
  "SourceFile \x7b name: " ++ Text.quote source.name ++ ", len: " ++ toString source.length ++ " \x7d"

end Source

/-- The least number of an interval from which on a predicate fails, or the end of the interval. It is
found by halving, so the predicate must not hold again after it has failed. -/
def bisect (p : Nat → Bool) (low high : Nat) : Nat :=
  if low < high then
    let middle := low + (high - low) / 2
    if p middle then bisect p (middle + 1) high else bisect p low middle
  else low
termination_by high - low

/-- How many entries at the front of a sorted table are not above a bound. -/
def countUpTo (bound : Nat) (table : Array Nat) : Nat :=
  bisect (fun i => table[i]?.any (· ≤ bound)) 0 table.size

/-- The byte offsets at which a character stands in a text that starts at an offset. -/
def Text.offsetsOf (wanted : Char) (offset : Nat) : List Char → List Nat
  | [] => []
  | c :: cs =>
    if c = wanted then offset :: offsetsOf wanted (offset + c.utf8Size) cs
    else offsetsOf wanted (offset + c.utf8Size) cs

namespace Source

/-- Where the lines start: the first one with the text, and each of the others after a line feed. -/
def lineStarts (source : Source) : Array Nat :=
  (0 :: (Text.offsetsOf '\n' 0 source.chars).map (· + 1)).toArray

/-- Line and column of a byte offset. An offset past the end stands for the end, and for an offset
inside a character the column counts bytes. -/
def position (source : Source) (offset : Nat) : Position :=
  let offset := min offset source.length
  let line := countUpTo offset source.lineStarts
  let start := source.lineStarts[line - 1]?.getD 0
  match Text.slice start (offset - start) source.chars with
  | .ok before => ⟨line, before.length⟩
  | .error _ => ⟨line, offset - start⟩

end Source

/-- A range of bytes of the source with the given identity. -/
structure Span where
  source : Nat
  offset : Nat
  length : Nat
deriving DecidableEq, Repr

namespace Span

def stop (span : Span) : Nat := span.offset + span.length

/-- The empty span directly after a span. -/
def ending (span : Span) : Span := ⟨span.source, span.stop, 0⟩

def isEmpty (span : Span) : Bool := span.length == 0

/-- The least span that holds both, if they are of one source. -/
def join (a b : Span) : Option Span :=
  if a.source = b.source then
    let first := min a.offset b.offset
    some ⟨a.source, first, max a.stop b.stop - first⟩
  else none

end Span

namespace Source

def span (source : Source) (offset length : Nat) : Span := ⟨source.id, offset, length⟩

def slice (source : Source) (span : Span) : Except Text.BadSlice (List Char) :=
  Text.slice span.offset span.length source.chars

def location (source : Source) (span : Span) : Location :=
  ⟨source.position span.offset, source.position span.stop⟩

/-- Name of the source and range of the span. -/
def describeSpan (source : Source) (span : Span) : String :=
  source.name ++ "[" ++ toString span.offset ++ ".." ++ toString span.stop ++ "]"

end Source

end Offside
