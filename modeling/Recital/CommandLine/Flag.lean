/-
# The options of the command line

Every option has one or two spellings, of which the last one is the long one, and
takes a value or none.  Most options stand for an instruction; the others say what is
to be done with the instructions.
-/

import Recital.Instruction

namespace Recital
namespace CommandLine

/-- An option. -/
inductive Flag where
  | help
  | verbose
  | onlineVoices
  | version
  | text
  | textFile
  | voice
  | dial (dial : Dial)
  | reset
  | sentence
  | endSentence
  | paragraph
  | endParagraph
  | loop (fade : Fade)
  | interactive
  | template
  | listVoices
  | ssml
  | output
  | defaultVoice
  | seed
  deriving DecidableEq

namespace Flag

/-- All options. -/
def all : List Flag :=
  [.help, .verbose, .onlineVoices, .version, .text, .textFile, .voice, .dial .rate,
    .dial .emphasis, .dial .voiceVolume, .dial .outputVolume, .reset, .sentence, .endSentence,
    .paragraph, .endParagraph, .loop .level, .loop .fadeIn, .loop .fadeOut, .interactive,
    .template, .listVoices, .ssml, .output, .defaultVoice, .seed]

/-- The options that are needed before the others can be read. -/
def early : List Flag := [.verbose, .onlineVoices]

/-- The long spelling of an option. -/
def long : Flag → String
  | .help => "--help"
  | .verbose => "--verbose"
  | .onlineVoices => "--online-voices"
  | .version => "--version"
  | .text => "--text"
  | .textFile => "--text-file"
  | .voice => "--voice"
  | .dial .rate => "--rate"
  | .dial .emphasis => "--emphasis"
  | .dial .voiceVolume => "--volume"
  | .dial .outputVolume => "--output-volume"
  | .reset => "--reset"
  | .sentence => "--sentence"
  | .endSentence => "--end-sentence"
  | .paragraph => "--paragraph"
  | .endParagraph => "--end-paragraph"
  | .loop .level => "--loop"
  | .loop .fadeIn => "--fade-in"
  | .loop .fadeOut => "--fade-out"
  | .interactive => "--interactive"
  | .template => "--template"
  | .listVoices => "--list-voices"
  | .ssml => "--ssml"
  | .output => "--output"
  | .defaultVoice => "--default-voice"
  | .seed => "--seed"

/-- The short spelling of an option, if it has one. -/
def short? : Flag → Option String
  | .help => some "-h"
  | .verbose => some "-v"
  | .text => some "-t"
  | .textFile => some "-f"
  | .output => some "-o"
  | _ => none

/-- The spellings of an option. -/
def spellings (f : Flag) : List String := f.short?.toList ++ [f.long]

/-- Whether an option takes a value. -/
def takesValue : Flag → Bool
  | .text | .textFile | .voice | .dial _ | .loop _ | .template | .output | .defaultVoice
  | .seed => true
  | _ => false

/-- What messages call an option. -/
def label (f : Flag) : String := "/".intercalate f.spellings

/-- The option among `known` with a spelling. -/
def spelled? (known : List Flag) (word : String) : Option Flag :=
  known.find? fun f => f.spellings.contains word

end Flag
end CommandLine
end Recital
