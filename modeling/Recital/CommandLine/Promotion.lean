/-
# Bare words

Words that are no options are text.  Before the options are read every such word takes
the form `--text=WORD`, and a value is attached to its option in the same way, so that
a value is taken as it is even where it looks like an option.  After a lone `--`
every word is text.  An option at the end whose value is missing stays as it is.
-/

import Recital.CommandLine.Flag

namespace Recital
namespace CommandLine

/-- A value attached to the long spelling of an option. -/
def attach (flag : Flag) (value : String) : String := flag.long ++ "=" ++ value

/-- The option that a word spells, if it takes a value. -/
def valueFlag? (word : String) : Option Flag :=
  (Flag.spelled? Flag.all word).filter Flag.takesValue

/-- The words of a command line with bare words and values attached to options.
`expecting` is the option whose value comes next. -/
def promoteFrom (expecting : Option Flag) : List String → List String
  | [] => expecting.toList.map Flag.long
  | word :: words =>
    match expecting with
    | some flag => attach flag word :: promoteFrom none words
    | none =>
      if word = "--" then words.map (attach .text)
      else match valueFlag? word with
        | some flag => promoteFrom (some flag) words
        | none =>
          if word.toList.head? = some '-' then word :: promoteFrom none words
          else attach .text word :: promoteFrom none words

/-- The words of a command line with bare words and values attached to options. -/
def promote (words : List String) : List String := promoteFrom none words

end CommandLine
end Recital
