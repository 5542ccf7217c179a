/-!
# Styled text for terminals

Control sequences set the colour and weight of a text. They are left out where colours are not
wanted.

## Main definitions

* `Report.Style`: the styles in use.
* `Report.paint`: a text in a style.
-/

namespace CatalogFilter.Report

/-- A style of text. -/
inductive Style where
  /-- Headings. -/
  | heading
  /-- Less important text. -/
  | dimmed
  /-- Operators. -/
  | operator
  /-- The mark of success. -/
  | success
  deriving DecidableEq, Repr

/-- The control sequence with the given code. -/
def sequence (code : String) : String :=
  "\x1b[" ++ code ++ "m"

namespace Style

/-- The sequences that switch the style on. -/
def opening : Style → String
  | .heading => sequence "1" ++ sequence "32"
  | .dimmed => sequence "2"
  | .operator => sequence "36"
  | .success => sequence "32"

/-- The sequences that switch the style off. -/
def closing : Style → String
  | .heading => sequence "39" ++ sequence "0"
  | .dimmed => sequence "0"
  | .operator => sequence "39"
  | .success => sequence "39"

end Style

/-- The text in a style, if colours are wanted. -/
def paint (colors : Bool) (style : Style) (s : String) : String :=
  if colors then style.opening ++ s ++ style.closing else s

/-- A heading on a line of its own. -/
def header (colors : Bool) (s : String) : String :=
  paint colors .heading s ++ "\n"

/-- The names of columns on a line of their own. -/
def columnHeading (colors : Bool) (s : String) : String :=
  paint colors .dimmed s ++ "\n"

end CatalogFilter.Report
