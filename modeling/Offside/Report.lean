import Offside.Memory
import Offside.Source.Excerpt
import Offside.Text.Blank
import Offside.Text.Field

/-! Error reports. A report is a message, the place it speaks of with the source lines around it, and
then its cause, shown the same way. -/

namespace Offside

/-- A span together with the source it is of. -/
structure Place where
  source : Source
  span : Span
deriving DecidableEq, Repr

/-- A message, and where it applies. -/
structure Note where
  message : String
  place : Option Place := none
deriving DecidableEq, Repr

/-- An error first, then its cause, then the cause of that. -/
abbrev Report := List Note

namespace Report

/-- Why a report cannot be written. -/
inductive Failure where
  /-- A span starts inside a character. -/
  | slice (bad : Text.BadSlice)
  /-- The mark under a span is longer than memory. -/
  | mark (shortage : Memory.Shortage)
  /-- The line numbers need too wide a field. -/
  | field (width : Nat)
deriving DecidableEq, Repr

def spaces (n : Nat) : List Char := List.replicate n ' '

/-- A number in a field of a width. -/
def padded (width n : Nat) : List Char := Text.alignRight width (toString n).toList

/-- The mark under the base line: one tilde a byte, or a caret led to by dashes for an empty span. -/
def marker (width column length : Nat) : List Char :=
  if 0 < length then spaces (width + 3) ++ spaces column ++ List.replicate length '~'
  else spaces (width + 3) ++ List.replicate column '-' ++ ['^']

def excerptLine (width base length : Nat) (line : Line) : List Char :=
  padded width line.number ++ [' ', '|', ' '] ++ Text.dropBlanksRight line.text ++ ['\n'] ++
    if line.number = base then marker width line.column length ++ ['\n'] else []

/-- Width of the field for line numbers. It grows with the last number shown. -/
def numberWidth (lines : List Line) : Nat :=
  (lines.map Line.number).foldl max 0 / 10 + 1

def excerptText (excerpt : Excerpt) (length : Nat) : List Char :=
  excerpt.lines.flatMap (excerptLine (numberWidth excerpt.lines) excerpt.base length)

/-- Refuses line numbers and marks that are too large to be written. -/
def checkSizes (excerpt : Excerpt) (length : Nat) : Except Failure Unit := do
  let width := numberWidth excerpt.lines
  unless width ≤ Text.widestField do throw (.field width)
  (Memory.reserve length 1).mapError .mark

def excerptLines (place : Place) : Except Failure (List Char) := do
  match ← (place.source.excerpt place.span 2 2).mapError .slice with
  | some excerpt =>
    checkSizes excerpt place.span.length
    return excerptText excerpt place.span.length
  | none => return []

def placeText (place : Place) : Except Failure (List Char) := do
  let lines ← excerptLines place
  let position := place.source.position place.span.offset
  return "  -> ".toList ++ place.source.name.toList ++ [':'] ++ position.render.toList ++ ['\n'] ++
    lines ++ ['\n']

def noteText (note : Note) : Except Failure (List Char) := do
  let place ← match note.place with
    | some place => placeText place
    | none => .ok []
  return note.message.toList ++ ['\n'] ++ place

/-- The whole report, unless a note of it cannot be written. -/
def render (report : Report) : Except Failure String := do
  let notes ← report.mapM noteText
  return String.ofList notes.flatten

end Report

end Offside
