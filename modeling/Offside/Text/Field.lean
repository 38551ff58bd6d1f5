/-! Fields of a line: a number of columns with a text at their right end. No field is wider than
65535 columns. -/

namespace Offside.Text

def widestField : Nat := 0xffff

/-- Fills a text up to a width with spaces before it. A longer text stays as it is. -/
def alignRight (width : Nat) (cs : List Char) : List Char :=
  List.replicate (width - cs.length) ' ' ++ cs

end Offside.Text
