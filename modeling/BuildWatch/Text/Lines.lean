/-!
# Lines of a text

A line ends with a line feed, which the last one may lack.  A carriage return
right before a line feed belongs to the end of the line, and a text that ends
with a line feed has no further line behind it.
-/

namespace BuildWatch.Lines

/-- Splits a text into its lines. -/
def split : List Char → List (List Char)
  | [] => []
  | '\n' :: rest => [] :: split rest
  | '\r' :: '\n' :: rest => [] :: split rest
  | character :: rest =>
      match split rest with
      | [] => [[character]]
      | line :: others => (character :: line) :: others

def ofText (text : String) : List String :=
  (split text.toList).map String.ofList

/-- The text that has every line ended by a line feed. -/
def text (lines : List String) : String :=
  String.join (lines.map (· ++ "\n"))

end BuildWatch.Lines
