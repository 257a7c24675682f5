/-
# Reading options

Reading turns words into steps: an option that is given, with its value, or a word
that belongs to none.  A word that starts with a dash is looked at in this order:

| word | read as |
| --- | --- |
| a spelling of an option | that option |
| a dash alone | no option |
| a spelling, `=`, and more | the option with the rest as its value |
| a short spelling and more | the option with the rest as its value |
| a negative number, or anything with a space | no option |
| anything else | an option that nobody knows |

What follows a short spelling of an option without value are more short options.  An
option with a value that has none attached takes the next word, which must not look
like an option.  After a lone `--` no word is an option.  Reading ends at the first
step that is a fault.
-/

import Recital.CommandLine.Flag
import Recital.Text.Digit

namespace Recital
namespace CommandLine

/-- What a word is by itself. -/
inductive Word where
  | marker
  | flag (flag : Flag)
  | attached (flag : Flag) (isShort : Bool) (value : List Char)
  | unknown
  | plain
  deriving DecidableEq

/-- Whether characters are the digits of a number behind its sign, with at most one
point, which has a digit behind it. -/
def isUnsignedNumber (cs : List Char) : Bool :=
  let isDigit (c : Char) : Bool := (Text.digit? c).isSome
  match cs.dropWhile isDigit with
  | [] => !cs.isEmpty
  | '.' :: fraction => !fraction.isEmpty && fraction.all isDigit
  | _ => false

/-- Whether a word is a negative number.  A line feed at its end does not count. -/
def isNegativeNumber : List Char → Bool
  | '-' :: cs => isUnsignedNumber (if cs.getLast? = some '\n' then cs.dropLast else cs)
  | _ => false

/-- The option that the part of a word before its first `=` spells, and the part
behind it. -/
def splitValue? (known : List Flag) (cs : List Char) : Option (Flag × List Char) :=
  let before := cs.takeWhile (· != '=')
  match cs.drop before.length with
  | _ :: value => (Flag.spelled? known (String.ofList before)).map fun f => (f, value)
  | [] => none

/-- What a word is that starts with a dash and goes on. -/
def Word.ofDashed (known : List Flag) (cs : List Char) : Word :=
  let isShort := cs[1]? != some '-'
  match splitValue? known cs with
  | some (f, value) => .attached f isShort value
  | none =>
    match if isShort then Flag.spelled? known (String.ofList (cs.take 2)) else none with
    | some f => .attached f true (cs.drop 2)
    | none =>
      if isNegativeNumber cs || cs.contains ' ' then .plain else .unknown

/-- What a word is by itself, where the options `known` are known. -/
def Word.read (known : List Flag) (word : String) : Word :=
  if word = "--" then .marker
  else match word.toList with
    | '-' :: rest =>
      match Flag.spelled? known word with
      | some f => .flag f
      | none => if rest.isEmpty then .plain else .ofDashed known ('-' :: rest)
    | _ => .plain

/-- A step of reading. -/
inductive Step where
  | given (flag : Flag) (value : Option String)
  | withoutValue (flag : Flag)
  | needlessValue (flag : Flag) (value : String)
  | extra (word : String)
  deriving DecidableEq

/-- The options in what follows a short option: those that are complete, and the
last one with its value if it is attached. -/
def unbundle (known : List Flag) (f : Flag) :
    List Char → Except Step (List Step × Flag × Option String)
  | [] => if f.takesValue then .ok ([], f, some "") else .error (.needlessValue f "")
  | c :: rest =>
    if f.takesValue then .ok ([], f, some (String.ofList (c :: rest)))
    else match Flag.spelled? known (String.ofList ['-', c]) with
      | none => .error (.needlessValue f (String.ofList (c :: rest)))
      | some g =>
        if rest.isEmpty then .ok ([.given f none], g, none)
        else match unbundle known g rest with
          | .error step => .error step
          | .ok (steps, last, value) => .ok (.given f none :: steps, last, value)

/-- The options of a word: those that are complete, and the last one with its value
if it is attached. -/
def flagsOf (known : List Flag) (f : Flag) (isShort : Bool) (value : List Char) :
    Except Step (List Step × Flag × Option String) :=
  if isShort then unbundle known f value
  else if f.takesValue then .ok ([], f, some (String.ofList value))
  else .error (.needlessValue f (String.ofList value))

/-- The steps of the words after those that were read.  `wanting` is the option whose
value comes next, with the options of the same word before it; those count only once
the value is there. -/
def stepsFrom (known : List Flag) (wanting : Option (List Step × Flag)) : List String → List Step
  | [] => wanting.toList.map fun w => .withoutValue w.2
  | word :: words =>
    match wanting with
    | some (bundled, f) =>
      match Word.read known word with
      | .plain => bundled ++ .given f (some word) :: stepsFrom known none words
      | _ => [.withoutValue f]
    | none =>
      match Word.read known word with
      | .marker => .extra word :: words.map .extra
      | .plain | .unknown => .extra word :: stepsFrom known none words
      | .flag f =>
        if f.takesValue then stepsFrom known (some ([], f)) words
        else .given f none :: stepsFrom known none words
      | .attached f isShort value =>
        match flagsOf known f isShort value with
        | .error step => [step]
        | .ok (bundled, last, some value) =>
          bundled ++ .given last (some value) :: stepsFrom known none words
        | .ok (bundled, last, none) =>
          if last.takesValue then stepsFrom known (some (bundled, last)) words
          else bundled ++ .given last none :: stepsFrom known none words

/-- The steps of a command line. -/
def steps (known : List Flag) (words : List String) : List Step := stepsFrom known none words

end CommandLine
end Recital
