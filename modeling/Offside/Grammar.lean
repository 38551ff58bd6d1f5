import Offside.Report
import Offside.Script.Tree
import Offside.Token

/-! Grammars, and how they are driven. A grammar is given the tokens of a source one at a time, each
with its location, and at the end yields a script. -/

namespace Offside

/-- A token and where it stands. -/
structure Located where
  token : Token
  loc : Location
deriving DecidableEq, Repr

namespace Located

def kind (located : Located) : Kind := located.token.kind

def text (located : Located) : String := located.token.text

end Located

def Token.locate (source : Source) (token : Token) : Located := ⟨token, token.location source⟩

/-- A grammar with states `σ` that refuses with an `ε`. -/
structure Grammar (ε σ : Type) where
  start : σ
  push : σ → Located → Except ε σ
  finish : σ → Except ε Script.Program
  /-- What a refusal says. -/
  message : ε → String

/-- Why a source has no script. -/
inductive SyntaxFault where
  | lexing (fault : LexError)
  /-- The grammar refused, in its own words. -/
  | grammar (message : String)
deriving DecidableEq, Repr

def SyntaxFault.message : SyntaxFault → String
  | lexing fault => fault.message
  | grammar message => message

structure SyntaxError where
  fault : SyntaxFault
  place : Place
deriving DecidableEq, Repr

namespace SyntaxError

/-- A lexing error, at the character it met. -/
def ofLexing (source : Source) (fault : LexError) : SyntaxError :=
  let length := match Text.splitBytes? fault.offset source.chars with
    | some (_, c :: _) => c.utf8Size
    | _ => 0
  ⟨.lexing fault, source, source.span (min fault.offset source.length) length⟩

def render (error : SyntaxError) : Except Report.Failure String :=
  (Report.render [⟨error.fault.message, some error.place⟩]).map ("syntax error: " ++ ·)

end SyntaxError

namespace Grammar

variable {ε σ : Type}

def refusal (grammar : Grammar ε σ) (source : Source) (span : Span) (refused : ε) : SyntaxError :=
  ⟨.grammar (grammar.message refused), source, span⟩

/-- Feeds items to a grammar in some state, after a token with the given span. What is answered goes
with the last state the grammar was in. -/
def feed (grammar : Grammar ε σ) (source : Source) :
    List Item → Span → σ → Except SyntaxError Script.Program × σ
  | [], last, state =>
    match grammar.finish state with
    | .ok program => (.ok program, state)
    | .error refused => (.error (grammar.refusal source last refused), state)
  | .error fault :: _, _, state => (.error (.ofLexing source fault), state)
  | .ok token :: items, _, state =>
    match grammar.push state (token.locate source) with
    | .ok next => feed grammar source items (token.span source) next
    | .error refused => (.error (grammar.refusal source (token.span source) refused), state)

/-- Reads a script from the items of a source. A refusal at the end is put at the last token, or at
the end of the source if there was none. -/
def parse (grammar : Grammar ε σ) (source : Source) (items : List Item) :
    Except SyntaxError Script.Program × σ :=
  grammar.feed source items (source.span source.length 0) grammar.start

end Grammar

end Offside
