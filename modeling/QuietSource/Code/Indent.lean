/-
# Units of indentation

Each nesting level of generated code is indented by one unit, a run of spaces or a tab. The runs
in use have two, four or eight spaces; any other width falls back to four.
-/

namespace QuietSource.Code

/-- What one nesting level is indented by. -/
inductive Indent
  | spaces (width : Nat)
  | tab
  deriving DecidableEq

namespace Indent

/-- Rust code is indented by four spaces. -/
def rust : Indent := .spaces 4

/-- Java code is indented by tabs. -/
def java : Indent := .tab

/-- The text of one unit. -/
def text : Indent → String
  | .spaces 2 => "  "
  | .spaces 8 => "        "
  | .spaces _ => "    "
  | .tab => "\t"

end Indent

end QuietSource.Code
