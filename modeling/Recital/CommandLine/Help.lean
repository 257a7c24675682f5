/-
# Usage and help

The texts that the program prints about itself, in 80 columns.
-/

import Recital.CommandLine.Request
import Recital.Export

namespace Recital
namespace CommandLine

/-- The name of the program. -/
def programName : String := "promptspeak"

/-- Lines, each with its line feed. -/
def printed (lines : List Words) : Words := lines.flatMap fun line => line ++ "\n"

/-- How the program is called. -/
def usageLines : List String :=
  ["usage: promptspeak [-h] [-v] [--online-voices] [--version] [-t TEXT]",
    "                   [-f PATH_OR_URL] [--voice NAME] [--rate RATE]",
    "                   [--emphasis EMPHASIS] [--volume VOLUME]",
    "                   [--output-volume PERCENT] [--reset] [--sentence]",
    "                   [--end-sentence] [--paragraph] [--end-paragraph]",
    "                   [--loop COUNT] [--fade-in COUNT] [--fade-out COUNT]",
    "                   [--interactive] [--template PATH_OR_URL] [--list-voices]",
    "                   [--ssml] [-o FILE] [--default-voice VOICE_ID] [--seed SEED]"]

/-- How the early options are given. -/
def earlyUsageLines : List String := ["usage: promptspeak [-v] [--online-voices]"]

/-- What the options mean. -/
def optionLines : List String :=
  ["",
    "Read text aloud, switching voices and styles as instructed.",
    "",
    "options:",
    "  -h, --help            show this help message and exit",
    "  -v, --verbose         Log progress while compiling and speaking",
    "  --online-voices       Resolve voices against the full online edge-tts",
    "                        catalog",
    "  --version             show program's version number and exit",
    "",
    "instructions:",
    "  Applied in the order they are given.",
    "",
    "  -t TEXT, --text TEXT  Read the given text. Words that do not start with '-'",
    "                        are read as text too.",
    "  -f PATH_OR_URL, --text-file PATH_OR_URL",
    "                        Read the contents of a file or URL.",
    "  --voice NAME          Switch to the first voice whose id or name matches",
    "                        NAME.",
    "  --rate RATE           Speech rate from 0 to 5. 0 is the default, 1 the",
    "                        fastest, 5 the slowest.",
    "  --emphasis EMPHASIS   Emphasis from 0 to 4. 0 is the default, 1 the",
    "                        strongest.",
    "  --volume VOLUME       Voice volume from 0 to 7. 1 is silent, 7 the engine",
    "                        default.",
    "  --output-volume PERCENT",
    "                        Output device volume from 0 to 100. Starts a new",
    "                        prompt.",
    "  --reset               Change all voice options back to the defaults.",
    "  --sentence            Begin a sentence.",
    "  --end-sentence        End the current sentence.",
    "  --paragraph           Begin a paragraph.",
    "  --end-paragraph       End the current paragraph.",
    "  --loop COUNT          Repeat everything before this instruction COUNT times.",
    "  --fade-in COUNT       Repeat everything before this instruction COUNT times,",
    "                        getting louder.",
    "  --fade-out COUNT      Repeat everything before this instruction COUNT times,",
    "                        getting quieter.",
    "  --interactive         Read lines from standard input until it ends, speaking",
    "                        each one.",
    "  --template PATH_OR_URL",
    "                        Read random text generated from a JSON template file",
    "                        or URL.",
    "",
    "output:",
    "  --list-voices         Print the voice catalog and exit",
    "  --ssml                Print the SSML of each prompt instead of speaking",
    "  -o FILE, --output FILE",
    "                        Write an MP3 and JSON manifest instead of playing",
    "  --default-voice VOICE_ID",
    "                        Voice used where no --voice applies (default: en-US-",
    "                        AriaNeural)",
    "  --seed SEED           Seed for template randomness",
    "",
    "EXAMPLE: promptspeak --voice Aria \"Spoken as Aria\" --voice Guy \"Spoken as Guy\""]

/-- The help text. -/
def helpText : Words := printed ((usageLines ++ optionLines).map .ofString)

/-- The version text. -/
def versionText : Words := printed [programName ++ " " ++ version]

/-- A complaint under the usage it goes with. -/
def complaintText (usage : List String) (complaint : Complaint) : Words :=
  printed ((usage ++ [programName ++ ": error: " ++ complaint.message]).map .ofString)

end CommandLine
end Recital
