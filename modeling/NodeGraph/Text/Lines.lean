/-!
# Lines

The lines of a text, as a sequence of pieces that line feeds end.
-/

namespace NodeGraph

namespace Text

def splitLines (current : List Char) : List Char → List (List Char)
  | [] => [current.reverse]
  | c :: rest =>
      if c = '\n' then current.reverse :: splitLines [] rest
      else splitLines (c :: current) rest

/-- A line without the carriage return before its line feed. -/
def dropCarriageReturn (line : List Char) : List Char :=
  match line.reverse with
  | '\r' :: rest => rest.reverse
  | _ => line

/-- The lines of a text.  Only line feeds end lines, and nothing after the last one is no
line. -/
def lines (text : List Char) : List (List Char) :=
  let pieces := splitLines [] text
  let ended := pieces.dropLast.map dropCarriageReturn
  match pieces.getLast? with
  | some [] => ended
  | some last => ended ++ [last]
  | none => ended

end Text

end NodeGraph
