import Offside.Source
import Offside.Token.Kind

/-! Tokens, lexing errors and what a token stream yields. -/

namespace Offside

/-- A token holds its text, and so ends as many bytes after its start as the text is long. -/
structure Token where
  kind : Kind
  start : Nat
  lexeme : List Char
deriving DecidableEq, Repr

namespace Token

def stop (token : Token) : Nat := token.start + Text.byteLength token.lexeme

def text (token : Token) : String := String.ofList token.lexeme

def isTrivia (token : Token) : Bool := token.kind.isTrivia

/-- A token without text. -/
def pseudo (kind : Kind) (offset : Nat) : Token := ⟨kind, offset, []⟩

/-- The token that covers a span. -/
def ofSpan (source : Source) (kind : Kind) (span : Span) : Except Text.BadSlice Token :=
  (source.slice span).map fun lexeme => ⟨kind, span.offset, lexeme⟩

def span (source : Source) (token : Token) : Span :=
  source.span token.start (Text.byteLength token.lexeme)

def location (source : Source) (token : Token) : Location := source.location (token.span source)

def describe (token : Token) : String := token.kind.name ++ "(" ++ Text.quote token.text ++ ")"

@[simp] theorem stop_pseudo (kind : Kind) (offset : Nat) : (pseudo kind offset).stop = offset := rfl

end Token

/-- Why a text cannot be lexed further. -/
inductive LexError where
  | noRule (offset : Nat)
  | unclosedString (offset : Nat)
  /-- A rule without a kind of its own matched a text that names no kind. -/
  | untyped (lexeme : List Char) (offset : Nat)
deriving DecidableEq, Repr

namespace LexError

def offset : LexError → Nat
  | noRule offset | unclosedString offset | untyped _ offset => offset

def message : LexError → String
  | noRule offset => "no lexer rule matches at offset " ++ toString offset
  | unclosedString offset => "string starting at offset " ++ toString offset ++ " is never closed"
  | untyped lexeme offset =>
    Text.quote (String.ofList lexeme) ++ " at offset " ++ toString offset ++
      " matched a rule with no kind, and is not a kind itself"

end LexError

/-- What a token stream yields at a time. -/
abbrev Item := Except LexError Token

end Offside
