import Snippet.Text.Basic

/-!
# Lines

A line ends with a line feed, and a carriage return just before that line feed belongs to the
ending. What follows the last line feed is a line of its own only if it is not empty; a carriage
return there is content.
-/

namespace Snippet.Text

/-- A line without the carriage return that its line feed leaves behind. -/
def dropReturn (line : Text) : Text :=
  dropEnding ['\r'] line

/-- The pieces between line feeds made into lines: each piece that a line feed ends loses its
carriage return, and an empty last piece is no line. -/
def finishLines : List Text → List Text
  | [] => []
  | [last] => if last.isEmpty then [] else [last]
  | piece :: pieces => dropReturn piece :: finishLines pieces

def lines (t : Text) : List Text :=
  finishLines (split (· == '\n') t)

/-- A line with a margin in front; a blank line becomes empty. -/
def indentLine (margin line : Text) : Text :=
  if line.isBlank then [] else margin ++ line

def indent (margin t : Text) : Text :=
  join ['\n'] (t.lines.map (indentLine margin))

end Snippet.Text
