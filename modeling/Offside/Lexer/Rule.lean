import Offside.Lexer.Scan
import Offside.Token

/-! Lexing rules and the rule table of the language. Rules are tried in order, and the first one that
takes any text wins. -/

namespace Offside

/-- A rule without a kind gives a token the kind that its text names. -/
structure Rule where
  name : String
  kind : Option Kind
  scan : List Char → Scan

namespace Rule

/-- Tries a rule. A match of no text does not count. -/
def apply (rule : Rule) (cs : List Char) : Scan :=
  match rule.scan cs with
  | .matched 0 => .noMatch
  | scan => scan

theorem length_pos_of_apply {rule : Rule} {cs : List Char} {n : Nat}
    (taken : rule.apply cs = .matched n) : 0 < n := by
  unfold apply at taken
  split at taken
  · contradiction
  · rename_i nonempty
    rcases Nat.eq_zero_or_pos n with rfl | positive
    · exact absurd taken nonempty
    · exact positive

def kindOf (rule : Rule) (lexeme : List Char) : Option Kind :=
  rule.kind.or (Kind.ofName? (String.ofList lexeme))

/-- A rule that measures the text it takes. -/
def measured (name : String) (kind : Option Kind) (length : List Char → Nat) : Rule :=
  ⟨name, kind, fun cs => .ofLength (length cs)⟩

/-- Takes one given text. -/
def literal (kind : Option Kind) (text : String) : Rule :=
  measured text kind (Scan.literal text.toList)

/-- Takes a string in single quotes. -/
def quoted (kind : Kind) : Rule := ⟨"string", some kind, Scan.quoted⟩

/-- The words that the keyword rule takes. -/
def keywords : List String :=
  ["for", "if", "else", "def", "this", "in", "on", "do", "return", "while", "function", "yield",
   "break", "continue", "try", "finally"]

/-- The words that the literal rule takes. -/
def literals : List String := ["true", "false", "null", "undefined"]

/-- Every keyword that the rule takes is the name of a kind, and the other way round. -/
theorem keywords_eq : keywords = Keyword.all.map Keyword.name := rfl

theorem literals_eq : literals = Constant.all.map Constant.name := rfl

/-- The rule table of the language. -/
def table : List Rule :=
  [quoted .string,
   measured "comment" (some .comment) Scan.comment,
   measured "keyword" none (Scan.wholeWord keywords),
   measured "ws" (some .blanks) Scan.blanks,
   measured "nl" (some .newline) Scan.newline,
   measured "this" (some (.keyword .thisWord)) (Scan.oneOf ['@']),
   measured "bracket" none (Scan.oneOf ['\x7b', '\x7d', '[', ']', '(', ')']),
   measured "number" (some .number) Scan.number,
   measured "literal" none (Scan.wholeWord literals),
   measured "id" (some .identifier) Scan.identifier,
   measured "arrow" none (Scan.pair ['-', '='] ['>']),
   measured "compare" (some .compare) fun cs =>
     Scan.firstLength [Scan.pair ['=', '<', '>', '!'] ['='] cs, Scan.oneOf ['<', '>'] cs],
   measured "reassign" (some .reassign) (Scan.pair ['+', '-', '*', '/', '^'] ['=']),
   measured "assign" none fun cs =>
     Scan.firstLength [Scan.pair [':'] ['='] cs, Scan.oneOf ['='] cs],
   measured "punctuation" none (Scan.oneOf [',', '.', ':']),
   measured "cascade" (some .cascade) Scan.cascade,
   measured "linear" (some .linear) (Scan.oneOf ['+', '-']),
   measured "scalar" (some .scalar) fun cs =>
     Scan.firstLength [Scan.pair ['/'] ['/'] cs, Scan.oneOf ['*', '/', '%'] cs],
   measured "pow" (some .power) (Scan.oneOf ['^'])]

end Rule

end Offside
