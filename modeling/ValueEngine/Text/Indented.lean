/-!
# Indented text

Reports are lists of lines, each standing at some depth. A line is indented by
two spaces for each level and ends with a line break.
-/

set_option autoImplicit false

namespace ValueEngine

/-- A line of a report. -/
structure Line where
  /-- How many levels the line stands below the top. -/
  depth : Nat
  /-- The text after the indentation. -/
  text : String
deriving DecidableEq

namespace Line

/-- The spaces in front of a line. -/
def indentation (depth : Nat) : String := "".pushn ' ' (2 * depth)

/-- A line with its indentation and its line break. -/
def render (line : Line) : String := indentation line.depth ++ line.text ++ "\n"

/-- A line moved down by a number of levels. -/
def deepen (levels : Nat) (line : Line) : Line := { line with depth := line.depth + levels }

/-- The lines of a report, one after the other. -/
def renderAll (lines : List Line) : String := String.join (lines.map render)

end Line

end ValueEngine
