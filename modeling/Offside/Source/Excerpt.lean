import Offside.Source

/-! The lines of a source around a span. -/

namespace Offside

/-- A line of a source: its number, the column that matters on it, the byte it starts at and its
text without the line feed. -/
structure Line where
  number : Nat
  column : Nat
  offset : Nat
  text : List Char
deriving DecidableEq, Repr

/-- Lines around a span. The base line is the one on which the span starts. -/
structure Excerpt where
  base : Nat
  lines : List Line
deriving DecidableEq, Repr

namespace Text

/-- The lines of a text. A text has one line more than it has line feeds. -/
def lines : List Char → List (List Char)
  | [] => [[]]
  | c :: cs =>
    if c = '\n' then [] :: lines cs
    else
      match lines cs with
      | line :: more => (c :: line) :: more
      | [] => [[c]]

/-- Numbers lines, each with the byte it starts at. -/
def numberLines (number offset : Nat) : List (List Char) → List Line
  | [] => []
  | line :: more =>
    ⟨number, 0, offset, line⟩ :: numberLines (number + 1) (offset + byteLength line + 1) more

end Text

namespace Source

def lines (source : Source) : List Line := Text.numberLines 1 0 (Text.lines source.chars)

/-- Sets the column of the base line to the number of characters before the span. -/
def markColumn (source : Source) (base offset : Nat) (line : Line) : Except Text.BadSlice Line :=
  if line.number = base then
    (Text.slice line.offset (offset - line.offset) source.chars).map
      fun before => { line with column := before.length }
  else .ok line

/-- Up to `before` lines before the span's line, that line, and up to `after` lines after it. There
are none when the span starts past the end. -/
def excerpt (source : Source) (span : Span) (before after : Nat) :
    Except Text.BadSlice (Option Excerpt) :=
  if source.length < span.offset then .ok none
  else do
    let base := (source.position span.offset).line
    let near := source.lines.filter fun line =>
      base - before ≤ line.number && line.number ≤ base + after
    let lines ← near.mapM (source.markColumn base span.offset)
    return some ⟨base, lines⟩

end Source

end Offside
