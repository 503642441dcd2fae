/-
  The texts that explain the command.
-/
import SiteAudit.Command.Options

namespace SiteAudit.Command

/-- How the command is called. -/
def usageText : Text :=
  ("usage: route-audit [-h] [--path PATH] [--output OUTPUT] [--csv]\n" ++
    "                   [--json-output JSON_OUTPUT] [--exclude EXCLUDE]\n" ++
    "                   [--respect-gitignore] [--verbose]\n").toList

/-- The options and what they do. -/
def optionsText : Text :=
  ("options:\n" ++
    "  -h, --help            show this help message and exit\n" ++
    "  --path PATH           Root folder to audit. Defaults to the current\n" ++
    "                        directory.\n" ++
    "  --output OUTPUT       Markdown report path.\n" ++
    "  --csv                 Also write <output>_routes.csv and <output>_links.csv.\n" ++
    "  --json-output JSON_OUTPUT\n" ++
    "                        Optional output file path for a JSON export.\n" ++
    "  --exclude EXCLUDE     Gitignore-style pattern of root-relative paths to\n" ++
    "                        skip. Repeatable.\n" ++
    "  --respect-gitignore   Also skip paths ignored by .gitignore files under the\n" ++
    "                        root.\n" ++
    "  --verbose             Enable debug logging.\n").toList

/-- The answer to a call for help. -/
def helpText : Text :=
  usageText ++ ['\n'] ++ optionsText

/-- The answer to arguments that are not understood. -/
def faultText (fault : UsageFault) : Text :=
  usageText ++ "route-audit: error: ".toList ++ fault.message ++ ['\n']

end SiteAudit.Command
