/-!
# Lines

A line ends with a line feed, and a carriage return right before that does not count. What comes
behind the last line feed is a line as well, unless there is nothing. A text is split into its lines
without a look at any other character, so its bytes can be split in the same way.
-/

namespace CommandRouter.Text

variable {α : Type} [DecidableEq α]

/-- A line without the carriage return at its end, if it has one there. -/
def chop (ret : α) (line : List α) : List α :=
  if line.getLast? = some ret then line.dropLast else line

/-- The lines of a text whose line feeds and carriage returns are the given ones. -/
def linesOf (feed ret : α) (cs : List α) : List (List α) :=
  let pieces := cs.splitOn feed
  pieces.dropLast.map (chop ret) ++ pieces.getLast?.toList.filter fun last => !last.isEmpty

end CommandRouter.Text
