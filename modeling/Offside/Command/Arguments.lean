/-! The arguments of the command line. They are read from left to right; a value is checked when the
argument after it is read, and so gives way to an unknown argument that directly follows. -/

namespace Offside.Command

/-- Which tokens to print. -/
inductive Mode where
  /-- As a grammar reads them. -/
  | laidOut
  /-- As the lexer makes them. -/
  | raw
deriving DecidableEq, Repr

inductive Level where
  | off | error | info | debug | trace
deriving DecidableEq, Repr

namespace Level

def name : Level → String
  | off => "off"
  | error => "error"
  | info => "info"
  | debug => "debug"
  | trace => "trace"

def ofCounts (verbose quiet : Nat) : Level :=
  match verbose, quiet with
  | 0, 0 => info
  | 0, 1 => error
  | 0, _ => off
  | 1, _ => debug
  | _, _ => trace

end Level

structure Arguments where
  file : String
  mode : Mode
  lookback : Option Nat
  level : Level
deriving DecidableEq, Repr

/-- Why there is nothing to run. -/
inductive Refusal where
  | unknown | missing | conflict | emptyValue | badValue | needlessValue
  | help | version
deriving DecidableEq, Repr

inductive Flag where
  | verbose | quiet | laidOut | raw | lookback | help | version
deriving DecidableEq, Repr

namespace Flag

def ofLetter? : Char → Option Flag
  | 'v' => some verbose
  | 'q' => some quiet
  | 'l' => some lookback
  | 'h' => some help
  | 'V' => some version
  | _ => none

def ofWord? : String → Option Flag
  | "tokenize" => some laidOut
  | "tokenize-raw" => some raw
  | "lookback" => some lookback
  | "help" => some help
  | "version" => some version
  | _ => none

end Flag

/-- A count below `2 ^ 64`: decimal digits, with or without a plus sign. -/
def count? (text : List Char) : Option Nat :=
  let digits := match text with
    | '+' :: digits => digits
    | digits => digits
  if digits.isEmpty || !digits.all Char.isDigit then none
  else
    let n := digits.foldl (fun n c => 10 * n + (c.toNat - '0'.toNat)) 0
    if n < UInt64.size then some n else none

/-- A value that is read and not yet checked. -/
inductive Unchecked where
  | file (text : String)
  /-- The value of an option, which may still have to come. -/
  | lookback (text : Option (List Char))
deriving DecidableEq, Repr

/-- What is known after some of the arguments. -/
structure Draft where
  verbose : Nat := 0
  quiet : Nat := 0
  laidOut : Bool := false
  raw : Bool := false
  lookback : Option Nat := none
  file : Option String := none
  unchecked : Option Unchecked := none
deriving DecidableEq, Repr

namespace Draft

def setLookback (draft : Draft) (text : List Char) : Except Refusal Draft :=
  if draft.lookback.isSome then .error .conflict
  else
    match count? text with
    | some n => .ok { draft with lookback := some n }
    | none => .error .badValue

/-- Checks the value that waits for it. -/
def settle (draft : Draft) : Except Refusal Draft :=
  let settled := { draft with unchecked := none }
  match draft.unchecked with
  | none => .ok draft
  | some (.file text) =>
    if text.isEmpty then .error .emptyValue else .ok { settled with file := some text }
  | some (.lookback none) => .error .emptyValue
  | some (.lookback (some text)) => settled.setLookback text

/-- Takes a flag that comes without a value. -/
def raise (draft : Draft) (flag : Flag) : Except Refusal Draft := do
  let draft ← draft.settle
  match flag with
  | .verbose =>
    if draft.verbose < 2 then .ok { draft with verbose := draft.verbose + 1 } else .error .badValue
  | .quiet =>
    if draft.quiet < 2 then .ok { draft with quiet := draft.quiet + 1 } else .error .badValue
  | .laidOut => if draft.laidOut then .error .conflict else .ok { draft with laidOut := true }
  | .raw => if draft.raw then .error .conflict else .ok { draft with raw := true }
  | .lookback => .ok { draft with unchecked := some (.lookback none) }
  | .help => .error .help
  | .version => .error .version

/-- An argument after two dashes, with its value if it has one. -/
def word (draft : Draft) (text : List Char) : Except Refusal Draft :=
  let name := String.ofList (text.takeWhile (· ≠ '='))
  match Flag.ofWord? name, text.dropWhile (· ≠ '=') with
  | none, _ => .error .unknown
  | some flag, [] => draft.raise flag
  | some .lookback, _ :: value => do (← draft.settle).setLookback value
  | some _, _ :: _ => .error .needlessValue

/-- The letters after one dash. What follows the letter of an option is its value. -/
def letters (draft : Draft) : List Char → Except Refusal Draft
  | [] => .ok draft
  | c :: cs =>
    match Flag.ofLetter? c, cs with
    | none, _ => .error .unknown
    | some .lookback, [] => draft.raise .lookback
    | some .lookback, '=' :: value => do (← draft.settle).setLookback value
    | some .lookback, value => do (← draft.settle).setLookback value
    | some flag, cs => do letters (← draft.raise flag) cs

def hasFile (draft : Draft) : Bool :=
  draft.file.isSome || match draft.unchecked with
    | some (.file _) => true
    | _ => false

def setFile (draft : Draft) (text : String) : Except Refusal Draft := do
  if draft.hasFile then .error .unknown
  else return { ← draft.settle with unchecked := some (.file text) }

/-- An argument that is no flag: the value of the option before it, or the file. -/
def plain (draft : Draft) (text : String) : Except Refusal Draft :=
  if draft.unchecked = some (.lookback none) then
    .ok { draft with unchecked := some (.lookback (some text.toList)) }
  else draft.setFile text

def read (draft : Draft) : List String → Except Refusal Draft
  | [] => draft.settle
  | text :: rest =>
    match text.toList with
    | ['-', '-'] => do (← rest.foldlM setFile draft).settle
    | '-' :: '-' :: name => do read (← draft.word name) rest
    | '-' :: c :: cs => do read (← draft.letters (c :: cs)) rest
    | _ => do read (← draft.plain text) rest

/-- The arguments, if they go together and none is missing. -/
def finish (draft : Draft) : Except Refusal Arguments :=
  if (0 < draft.verbose && 0 < draft.quiet) || (draft.laidOut && draft.raw) then .error .conflict
  else
    match draft.file with
    | none => .error .missing
    | some file =>
      if draft.laidOut || draft.raw then
        .ok ⟨file, if draft.raw then .raw else .laidOut, draft.lookback,
          .ofCounts draft.verbose draft.quiet⟩
      else .error .missing

end Draft

/-- Reads the arguments. Where they say no lookback, that of the environment counts. -/
def Arguments.read (arguments : List String) (lookback : Option String) :
    Except Refusal Arguments := do
  let draft ← ({} : Draft).read arguments
  match draft.lookback, lookback with
  | none, some text => (← draft.setLookback text.toList).finish
  | _, _ => draft.finish

end Offside.Command
