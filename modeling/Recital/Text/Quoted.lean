/-
# Quoted text

A text in quotes, as messages show it.  The quote is `'` unless the text holds a
`'` and no `"`.  The quote and the backslash are escaped by a backslash, tab,
line feed and carriage return have letters of their own, and any other code point
that is not printable is written by its number:

| code point | written |
| --- | --- |
| below `0x100` | `\xNN` |
| below `0x10000` | `\uNNNN` |
| above | `\UNNNNNNNN` |
-/

import Recital.Text.Printable

namespace Recital
namespace Text

/-- The lower-case hexadecimal digits of `n`, at least `width` of them. -/
def hexadecimal (width n : Nat) : List Char :=
  (Nat.toDigits 16 n).leftpad width '0'

/-- The quote that a text is put in. -/
def quoteOf (w : Words) : Char :=
  if w.contains '\'' && !w.contains '"' then '"' else '\''

/-- How a code point is written between quotes. -/
def quotedPoint (quote : Char) (c : CodePoint) : List Char :=
  if c = quote ∨ c = '\\' then ['\\', c.readable]
  else if c = '\t' then ['\\', 't']
  else if c = '\n' then ['\\', 'n']
  else if c = '\r' then ['\\', 'r']
  else if isPrintable c then [c.readable]
  else
    let n := c.toNat
    if n < 0x100 then '\\' :: 'x' :: hexadecimal 2 n
    else if n < 0x10000 then '\\' :: 'u' :: hexadecimal 4 n
    else '\\' :: 'U' :: hexadecimal 8 n

/-- A text in quotes. -/
def quoted (w : Words) : String :=
  let quote := quoteOf w
  String.ofList (quote :: w.flatMap (quotedPoint quote) ++ [quote])

end Text
end Recital
