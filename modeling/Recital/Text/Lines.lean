/-
# Lines

A line ends with a line feed, with a carriage return, or with a carriage return
and a line feed.  Text read from a file knows the line feed alone, so
`unifyNewlines` writes the other two endings as one.  A stream of lines is cut after each
line feed, and the line handed on is without the characters that end it.
-/

namespace Recital
namespace Text

/-- Every line ending as a single line feed. -/
def unifyNewlines : List Char → List Char
  | [] => []
  | '\r' :: '\n' :: rest => '\n' :: unifyNewlines rest
  | '\r' :: rest => '\n' :: unifyNewlines rest
  | c :: rest => c :: unifyNewlines rest

/-- The lines of a text with their line feeds.  Text after the last line feed is
a line too, unless it is empty. -/
def splitLines : List Char → List (List Char)
  | [] => []
  | c :: rest =>
    if c = '\n' then [c] :: splitLines rest
    else match splitLines rest with
      | [] => [[c]]
      | line :: lines => (c :: line) :: lines

/-- A line without the line feeds and carriage returns at its end. -/
def trimLineEnd (cs : List Char) : List Char :=
  (cs.reverse.dropWhile fun c => c == '\n' || c == '\r').reverse

/-- The lines of a text without their endings. -/
def lines (s : String) : List String :=
  (splitLines s.toList).map fun line => String.ofList (trimLineEnd line)

end Text
end Recital
