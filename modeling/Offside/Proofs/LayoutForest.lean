import Offside.Layout

/-! Forests of lines, and how they are written. A line is words, and a line with lines below it ends in
a keyword that opens a block. Lines below a line stand further to the right than it does, all in one
column; between lines, and after the last one, there may be blank lines and comments. -/

namespace Offside.Layout

/-- An identifier that is neither a keyword nor a constant. -/
structure Word where
  first : Char
  more : List Char
  starts : Scan.isIdentifierStart first = true
  continues : ∀ c ∈ more, Text.isAsciiWord c = true
  ordinary : String.ofList (first :: more) ∉
    Keyword.all.map Keyword.name ++ Constant.all.map Constant.name

def Word.chars (word : Word) : List Char := word.first :: word.more

/-- A keyword that opens an indented block, if options do not say otherwise. -/
structure Opener where
  word : Keyword
  opens : .keyword word ∈ ({} : Options).indenters

def Opener.chars (opener : Opener) : List Char := opener.word.name.toList

/-- What comes after a hash, up to the end of the line. -/
structure Comment where
  chars : List Char
  oneLine : '\n' ∉ chars

def Comment.print (comment : Comment) : List Char := '#' :: comment.chars

/-- Blanks and a comment at the end of a line. -/
structure Tail where
  blanks : List Char
  blank : ∀ c ∈ blanks, (c == ' ' || c == '\t') = true
  comment : Option Comment

def Tail.print (tail : Tail) : List Char := tail.blanks ++ tail.comment.elim [] Comment.print

/-- A line break, and a line after it with nothing but blanks and a comment. -/
structure Filler where
  blanks : List Char
  blank : ∀ c ∈ blanks, Text.isBlank c = true
  comment : Option Comment

def Filler.print (filler : Filler) : List Char :=
  '\n' :: filler.blanks ++ filler.comment.elim [] Comment.print

def printFillers (fillers : List Filler) : List Char := fillers.flatMap Filler.print

/-- Leads to the next line, which starts in a column. -/
def printBreak (gap : List Filler) (column : Nat) : List Char :=
  printFillers gap ++ '\n' :: List.replicate column ' '

/-- Words, each with the number of further spaces after the one that separates it from the next. -/
abbrev Leading := List (Word × Nat)

def printLeading (leading : Leading) : List Char :=
  leading.flatMap fun (word, spaces) => word.chars ++ List.replicate (spaces + 1) ' '

mutual

inductive Line where
  | plain (leading : Leading) (last : Word) (tail : Tail)
  /-- A line with lines below it, which stand `further + 1` columns to the right of it. -/
  | block (leading : Leading) (opener : Opener) (tail : Tail) (further : Nat) (gap : List Filler)
      (body : Lines)

/-- At least one line, all in one column, with fillers between them. -/
inductive Lines where
  | last (line : Line)
  | more (line : Line) (gap : List Filler) (rest : Lines)

end

mutual

def Line.print (column : Nat) : Line → List Char
  | .plain leading last tail => printLeading leading ++ (last.chars ++ tail.print)
  | .block leading opener tail further gap body =>
    printLeading leading ++ (opener.chars ++ (tail.print ++
      (printBreak gap (column + further + 1) ++ body.print (column + further + 1))))

def Lines.print (column : Nat) : Lines → List Char
  | .last line => line.print column
  | .more line gap rest => line.print column ++ (printBreak gap column ++ rest.print column)

end

/-- What a grammar sees of a token: its kind and its text, but not how lines were broken. -/
abbrev Symbol := Kind × List Char

def symbol (token : Token) : Symbol :=
  (token.kind, if token.kind = .newline then [] else token.lexeme)

def Word.symbol (word : Word) : Symbol := (.identifier, word.chars)

def Opener.symbol (opener : Opener) : Symbol := (.keyword opener.word, opener.chars)

def leadingSymbols (leading : Leading) : List Symbol := leading.map fun (word, _) => word.symbol

mutual

/-- A line yields its words. Lines below it come after an indent and a newline, and a dedent comes
after them. -/
def Line.symbols : Line → List Symbol
  | .plain leading last _ => leadingSymbols leading ++ [last.symbol]
  | .block leading opener _ _ _ body =>
    leadingSymbols leading ++ opener.symbol :: (.indent, []) :: (.newline, []) ::
      (body.symbols ++ [(.dedent, [])])

/-- One newline stands between two lines. -/
def Lines.symbols : Lines → List Symbol
  | .last line => line.symbols
  | .more line _ rest => line.symbols ++ (.newline, []) :: rest.symbols

end

/-- The lines of a text, if there are any, and what comes after them. -/
structure Forest where
  lines : Option Lines
  trailing : List Filler

namespace Forest

def print (forest : Forest) : List Char :=
  forest.lines.elim [] (Lines.print 0) ++ printFillers forest.trailing

def symbols (forest : Forest) : List Symbol := forest.lines.elim [] Lines.symbols

end Forest

end Offside.Layout
