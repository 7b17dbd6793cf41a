import CrossRef.CommandLine.Invocation

/-! # Help

Each menu has a help text: its usage, an empty line, and what can be said in more words. The usage
alone stands in front of the message when a command line is refused.
-/

namespace CrossRef.CommandLine.Menu

/-- Lines as a text, each with its end. -/
def textOf (lines : List String) : String := String.join (lines.map (· ++ "\n"))

/-- How the words at a menu are put together. -/
def usageLines : Menu → List String
  | .top =>
    ["usage: esisref [-h] [--version] [--config PATH] [-v] [-q]",
     "               \x7blist,resolve,show,config,version,completion,mcp\x7d ..."]
  | .list =>
    ["usage: esisref list [-h] [--case-sensitive | --case-insensitive] [--strict]",
     "                    [-j]",
     "                    file"]
  | .resolve =>
    ["usage: esisref resolve [-h] [--case-sensitive | --case-insensitive] [--strict]",
     "                       [-j]",
     "                       file identifier"]
  | .view =>
    ["usage: esisref show [-h] [--case-sensitive | --case-insensitive] [--strict]",
     "                    [-C N] [--plain]",
     "                    file identifier"]
  | .config =>
    ["usage: esisref config [-h] \x7bshow,path\x7d ..."]
  | .configSettings =>
    ["usage: esisref config show [-h]"]
  | .configPath =>
    ["usage: esisref config path [-h]"]
  | .version =>
    ["usage: esisref version [-h]"]
  | .completion =>
    ["usage: esisref completion [-h] [--shell \x7bbash,zsh,fish,tcsh\x7d]"]
  | .server =>
    ["usage: esisref mcp [-h] \x7bserve\x7d ..."]
  | .serve =>
    ["usage: esisref mcp serve [-h] [--transport \x7bstdio,sse,streamable-http\x7d]"]

/-- What a help text says about a menu after the usage. -/
def helpLines : Menu → List String
  | .top =>
    ["ID cross-reference index for SGML/XML documents",
     "",
     "positional arguments:",
     "  \x7blist,resolve,show,config,version,completion,mcp\x7d",
     "                        Available commands",
     "    list                List declared identifiers with their elements",
     "    resolve             Locate the declaration of an identifier",
     "    show                Show the declaration of an identifier in context",
     "    config              Inspect configuration",
     "    version             Show version information",
     "    completion          Shell tab-completion setup",
     "    mcp                 MCP server for editor and agent integration",
     "",
     "options:",
     "  -h, --help            show this help message and exit",
     "  --version             show program's version number and exit",
     "  --config PATH         Path to configuration file",
     "  -v, --verbose         Verbose output",
     "  -q, --quiet           Suppress non-error output",
     "",
     "Examples:",
     "  esisref list manual.sgml              # List every declared ID",
     "  esisref resolve manual.sgml intro     # Where is ID \"intro\" declared?",
     "  esisref show manual.sgml intro        # Declaration with surrounding lines",
     "  esisref list manual.sgml --json       # Machine-readable listing",
     "",
     "Configuration:",
     "  esisref config path                   # Show config file location",
     "  esisref config show                   # View effective settings",
     "",
     "The document is parsed with nsgmls (or the command set in [parser] of",
     ".esisref.toml, e.g. ESISREF_PARSER_COMMAND=onsgmls).",
     "",
     "For detailed command help: esisref <command> --help",
     "        "]
  | .list =>
    ["positional arguments:",
     "  file                SGML or XML document to index",
     "",
     "options:",
     "  -h, --help          show this help message and exit",
     "  --case-sensitive    Match identifiers exactly (default: auto, exact for XML)",
     "  --case-insensitive  Fold identifier case (SGML general name case)",
     "  --strict            Fail when an ID attribute has no owning element",
     "  -j, --json          Output the listing as JSON"]
  | .resolve =>
    ["positional arguments:",
     "  file                SGML or XML document to index",
     "  identifier          Identifier to resolve",
     "",
     "options:",
     "  -h, --help          show this help message and exit",
     "  --case-sensitive    Match identifiers exactly (default: auto, exact for XML)",
     "  --case-insensitive  Fold identifier case (SGML general name case)",
     "  --strict            Fail when an ID attribute has no owning element",
     "  -j, --json          Output the span as JSON",
     "",
     "Exit status:",
     "  0  declaration found",
     "  1  document could not be indexed",
     "  2  identifier is not declared as an ID",
     "  3  identifier is indexed but its declaration was not found in the text"]
  | .view =>
    ["positional arguments:",
     "  file                SGML or XML document to index",
     "  identifier          Identifier to show",
     "",
     "options:",
     "  -h, --help          show this help message and exit",
     "  --case-sensitive    Match identifiers exactly (default: auto, exact for XML)",
     "  --case-insensitive  Fold identifier case (SGML general name case)",
     "  --strict            Fail when an ID attribute has no owning element",
     "  -C N, --context N   Lines of context (default: view.context_lines)",
     "  --plain             Disable syntax highlighting"]
  | .config =>
    ["positional arguments:",
     "  \x7bshow,path\x7d",
     "    show       Show the effective configuration",
     "    path       Show the config file in use",
     "",
     "options:",
     "  -h, --help   show this help message and exit"]
  | .configSettings | .configPath | .version =>
    ["options:",
     "  -h, --help  show this help message and exit"]
  | .completion =>
    ["options:",
     "  -h, --help            show this help message and exit",
     "  --shell \x7bbash,zsh,fish,tcsh\x7d",
     "                        Generate the completion script for this shell"]
  | .server =>
    ["positional arguments:",
     "  \x7bserve\x7d",
     "    serve     Start the MCP server",
     "",
     "options:",
     "  -h, --help  show this help message and exit"]
  | .serve =>
    ["options:",
     "  -h, --help            show this help message and exit",
     "  --transport \x7bstdio,sse,streamable-http\x7d",
     "                        Transport type (default: stdio)"]

/-- **The usage of a menu.** -/
def usage (m : Menu) : String := textOf m.usageLines

/-- **The help text of a menu.** -/
def help (m : Menu) : String := textOf (m.usageLines ++ "" :: m.helpLines)

end CrossRef.CommandLine.Menu
