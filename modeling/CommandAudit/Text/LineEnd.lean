/-!
# Line ends

The three ways of ending a line, a newline, a carriage return, and a carriage return before a
newline, are read as a newline.
-/

namespace CommandAudit

/-- One step of reading line ends: the characters so far, latest first, and whether the last one
was a carriage return. -/
def lineEndStep (acc : List Char × Bool) (c : Char) : List Char × Bool :=
  if c == '\r' then ('\n' :: acc.1, true)
  else if c == '\n' && acc.2 then (acc.1, false)
  else (c :: acc.1, false)

/-- The text with every line end written as a newline. -/
def unifyLineEnds (cs : List Char) : List Char :=
  (cs.foldl lineEndStep ([], false)).1.reverse

end CommandAudit
