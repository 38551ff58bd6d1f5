import Offside.Command.Arguments
import Offside.Compiler

/-! The command line: prints the tokens of a file, one a line. -/

namespace Offside.Command

/-- What a run ends with: an exit code, what is printed, and what is complained of. -/
structure Outcome where
  exit : Nat
  output : String := ""
  complaint : String := ""
deriving DecidableEq, Repr

def usage : String :=
  "usage: defscriptc [-v | -q] [-l LOOKBACK] (--tokenize | --tokenize-raw) FILE\n"

def versionText : String := "defscriptc_cli 0.0.0\n"

def Refusal.message : Refusal → String
  | unknown => "unexpected argument"
  | missing => "missing argument"
  | conflict => "arguments cannot be used together"
  | emptyValue => "value required"
  | badValue => "invalid value"
  | needlessValue => "unexpected value"
  | help => usage
  | version => versionText

def Refusal.outcome : Refusal → Outcome
  | help => { exit := 0, output := usage }
  | version => { exit := 0, output := versionText }
  | refusal => { exit := 2, complaint := refusal.message ++ "\n" ++ usage }

/-- Newlines and tabs are shown as escapes. -/
def escape : Char → List Char
  | '\n' => ['\\', 'n']
  | '\t' => ['\\', 't']
  | c => [c]

/-- The line that shows a token. -/
def describe (token : Token) : String :=
  token.kind.name ++ " : \"" ++ String.ofList (token.lexeme.flatMap escape) ++ "\"\n"

def tokens (arguments : Arguments) (compiler : Compiler) (source : Source) :
    Except Compiler.Error (List Token) :=
  match arguments.mode with
  | .laidOut => compiler.tokens source 0
  | .raw => Compiler.rawTokens source 0

def Arguments.compiler (arguments : Arguments) : Except Compiler.SetupFault Compiler :=
  let standard : Layout.Options := {}
  Compiler.create { standard with window := arguments.lookback.getD standard.window } .full

/-- Runs on arguments that were read, given the text of each file that can be read. Either all tokens
are printed or none. A window that memory has no room for ends the run with a code of its own. -/
def Arguments.run (arguments : Arguments) (text? : String → Option String) : Outcome :=
  match arguments.compiler with
  | .error fault => { exit := 1, complaint := fault.message ++ "\n" }
  | .ok compiler =>
    match text? arguments.file with
    | none => { exit := 1, complaint := "cannot read " ++ arguments.file ++ "\n" }
    | some text =>
      match tokens arguments compiler ⟨arguments.file, text, 0⟩ with
      | .ok tokens => { exit := 0, output := String.join (tokens.map describe) }
      | .error (.window shortage) => { exit := 101, complaint := shortage.message ++ "\n" }
      | .error error => { exit := 1, complaint := error.render.toOption.getD "" }

def run (arguments : List String) (lookback : Option String) (text? : String → Option String) :
    Outcome :=
  match Arguments.read arguments lookback with
  | .ok arguments => arguments.run text?
  | .error refusal => refusal.outcome

end Offside.Command
