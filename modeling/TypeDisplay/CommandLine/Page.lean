/-!
# Pages of help

The program has two commands.  The program and each command have a page with their usage,
and a page lists the options that are recognised with it.
-/

namespace TypeDisplay
namespace CommandLine

inductive Page where
  | program | format | keywords
  deriving DecidableEq, Repr

inductive Flag where
  | help | noEscape | config
  deriving DecidableEq, Repr

def Flag.label : Flag → String
  | help => "-h/--help"
  | noEscape => "--no-escape"
  | config => "--config"

def Flag.takesValue : Flag → Bool
  | config => true
  | _ => false

namespace Page

/-- The options by all their spellings. -/
def options : Page → List (String × Flag)
  | program | keywords => [("-h", .help), ("--help", .help)]
  | format =>
      [("-h", .help), ("--help", .help), ("--no-escape", .noEscape), ("--config", .config)]

/-- The words that name the page on a command line. -/
def title : Page → String
  | program => "sharpname"
  | format => "sharpname format"
  | keywords => "sharpname keywords"

def usage : Page → String
  | program => "usage: sharpname [-h] COMMAND ..."
  | format =>
      "usage: sharpname format [-h] [--no-escape] [--config CONFIG] FILE [FILE ...]"
  | keywords => "usage: sharpname keywords [-h]"

def description : Page → List String
  | program =>
      [ "SharpName: C# display names for type descriptors",
        "",
        "positional arguments:",
        "  COMMAND",
        "    format    Print the display name of one or more type descriptors",
        "    keywords  List the identifiers that are escaped",
        "",
        "options:",
        "  -h, --help  show this help message and exit" ]
  | format =>
      [ "Render YAML or JSON type descriptor documents as C# type names.",
        "",
        "positional arguments:",
        "  FILE             Descriptor documents to format",
        "",
        "options:",
        "  -h, --help       show this help message and exit",
        "  --no-escape      Do not prefix keyword identifiers with '@'",
        "  --config CONFIG  Path to a config file (default: .sharpname.yaml in the",
        "                   current directory, if present)" ]
  | keywords =>
      [ "List the reserved and contextual keywords that get an '@' prefix.",
        "",
        "options:",
        "  -h, --help  show this help message and exit" ]

def help (page : Page) : List String :=
  page.usage :: "" :: page.description

end Page
end CommandLine
end TypeDisplay
