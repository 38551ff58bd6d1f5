import Offside.Emitter
import Offside.Grammar
import Offside.Layout
import Offside.Lowering

/-! The whole way from a source to the text it is compiled to. -/

namespace Offside

structure Compiler where
  options : Layout.Options
  engine : Lowering.Engine

namespace Compiler

/-- What no compiler can work with. -/
inductive SetupFault where
  | zeroWindow
  | noProgram
  | pseudoIndenter (kind : Kind)
deriving DecidableEq, Repr

def SetupFault.message : SetupFault → String
  | zeroWindow => "Tokenizing can't occur with a lookback window of zero tokens"
  | noProgram => "The target vocabulary has no Program node"
  | pseudoIndenter kind => kind.name ++ " is produced by the cascade and can't open a block"

def create (options : Layout.Options) (vocabulary : Target.Vocabulary) :
    Except SetupFault Compiler :=
  if options.window = 0 then .error .zeroWindow
  else if !vocabulary.contains Target.NodeKind.program.name then .error .noProgram
  else
    match options.indenters.find? Kind.isPseudo with
    | some kind => .error (.pseudoIndenter kind)
    | none => .ok ⟨options, { vocabulary }⟩

/-- Why a source cannot be compiled. -/
inductive Error where
  | parsing (error : SyntaxError)
  | lowering (fault : Fault)
  /-- The emitter refused, in its own words. -/
  | emitting (message : String)
  /-- Memory has no room for the window. -/
  | window (shortage : Memory.Shortage)
deriving DecidableEq, Repr

namespace Error

def message : Error → Except Report.Failure String
  | parsing error => error.render
  | lowering fault => .ok ("could not lower program: " ++ fault.message)
  | emitting message => .ok ("could not emit program: " ++ message)
  | window shortage => .ok shortage.message

/-- The report of an error. It says no place of its own: that of a syntax error is in its message. -/
def render (error : Error) : Except Report.Failure String := do
  Report.render [⟨← error.message, none⟩]

end Error

/-- The tokens of a stream up to its end. The first error takes their place. -/
def gather (source : Source) (items : List Item) : Except Error (List Token) :=
  items.mapM fun item => item.mapError fun fault => .parsing (.ofLexing source fault)

/-- The tokens of a source, as the lexer makes them. -/
def rawTokens (source : Source) (offset : Nat) : Except Error (List Token) :=
  gather source (Lexer.ofSource source offset).items

/-- The items of a source, as a grammar reads them. -/
def items (compiler : Compiler) (source : Source) (offset : Nat) : Except Error (List Item) :=
  match Layout.Stream.create compiler.options source offset with
  | .ok stream => .ok stream.unread
  | .error shortage => .error (.window shortage)

/-- The tokens of a source, as a grammar reads them. -/
def tokens (compiler : Compiler) (source : Source) (offset : Nat) : Except Error (List Token) := do
  gather source (← compiler.items source offset)

/-- The result of a run, with the state in which it left the grammar and the compiler. -/
structure Run (σ α : Type) where
  result : Except Error α
  grammar : σ
  compiler : Compiler

variable {ε δ σ : Type}

def parse (compiler : Compiler) (grammar : Grammar ε σ) (source : Source) : Run σ Script.Program :=
  match compiler.items source 0 with
  | .error error => ⟨.error error, grammar.start, compiler⟩
  | .ok items =>
    let (result, last) := grammar.parse source items
    ⟨result.mapError .parsing, last, compiler⟩

/-- Parses a source and lowers its script. -/
def compileTree (compiler : Compiler) (grammar : Grammar ε σ) (source : Source) :
    Run σ Target.Program :=
  let parsed := compiler.parse grammar source
  match parsed.result with
  | .error error => ⟨.error error, parsed.grammar, compiler⟩
  | .ok program =>
    let (result, engine) := compiler.engine.lower program
    ⟨result.mapError .lowering, parsed.grammar, { compiler with engine }⟩

/-- Compiles a source to text. -/
def compile (compiler : Compiler) (grammar : Grammar ε σ) (emitter : Emitter δ) (source : Source) :
    Run σ String :=
  let lowered := compiler.compileTree grammar source
  let emit (program : Target.Program) : Except Error String :=
    (emitter.emit program).mapError fun refused => .emitting (emitter.message refused)
  { lowered with result := lowered.result >>= emit }

end Compiler

end Offside
