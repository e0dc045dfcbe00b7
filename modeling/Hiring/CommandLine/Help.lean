import Hiring.CommandLine.Arguments

/-!
# Help

* `Topic.text` — what help says about the program or one of its commands.
-/

namespace Hiring.CommandLine

/-- The lines about the program. -/
def programLines : List String := [
  "Run the recruitment service or screen an application from the command line",
  "",
  "Usage: rekrut-api [COMMAND]",
  "",
  "Commands:",
  "  serve   Start the HTTP service (default command)",
  "  screen  Screen one set of answers against a criteria file and print the verdict",
  "  help    Print this message or the help of the given subcommand(s)",
  "",
  "Options:",
  "  -h, --help     Print help",
  "  -V, --version  Print version"]

/-- The lines about serving. -/
def serveLines : List String := [
  "Start the HTTP service (default command)",
  "",
  "Usage: rekrut-api serve [OPTIONS]",
  "",
  "Options:",
  "      --host <HOST>  Override the configured host for the HTTP server",
  "      --port <PORT>  Override the configured port for the HTTP server",
  "  -h, --help         Print help"]

/-- The lines about screening. -/
def screenLines : List String := [
  "Screen one set of answers against a criteria file and print the verdict",
  "",
  "Usage: rekrut-api screen [OPTIONS] --criteria <CRITERIA> --answers <ANSWERS>",
  "",
  "Options:",
  "      --criteria <CRITERIA>  JSON file holding the job's criteria array",
  "      --answers <ANSWERS>    JSON file holding the applicant's answers object",
  "      --ai-score <AI_SCORE>  AI fit score to gate on before the answer rules",
  "  -h, --help                 Print help"]

/-- The lines about help. -/
def helpLines : List String := [
  "Print this message or the help of the given subcommand(s)",
  "",
  "Usage: rekrut-api help [COMMAND]...",
  "",
  "Arguments:",
  "  [COMMAND]...  Print help for the subcommand(s)"]

namespace Topic

/-- The lines about a topic. -/
def lines : Topic → List String
  | .program => programLines
  | .serve => serveLines
  | .screen => screenLines
  | .help => helpLines

/-- What help says about a topic. -/
def text (topic : Topic) : String := "\n".intercalate topic.lines ++ "\n"

end Topic

end Hiring.CommandLine
