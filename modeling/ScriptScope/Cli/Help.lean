import ScriptScope.Cli.Args

/-!
# Help

The texts that explain the program and its verbs.
-/

namespace ScriptScope.Cli.Help

/-- Help on the program. -/
def program : List String := [
  "usage: jython-complete [-h] [--catalog CATALOG] [--module-path MODULE_PATH] "
    ++ "\x7bscope,names,members,settings\x7d ...",
  "",
  "jython-complete - scope and type inference for Jython completion",
  "",
  "positional arguments:",
  "  \x7bscope,names,members,settings\x7d",
  "                        Commands",
  "    scope               Print the scope tree of a script",
  "    names               Complete a name at the end of a script",
  "    members             Complete members of an expression at the end of a script",
  "    settings            Show current configuration",
  "",
  "options:",
  "  -h, --help            show this help message and exit",
  "  --catalog CATALOG, -c CATALOG",
  "                        Host reflection catalog (JSON)",
  "  --module-path MODULE_PATH, -m MODULE_PATH",
  "                        Module search root (repeatable)",
  "",
  "Examples:",
  "  jython-complete scope script.py                  Show the scope tree of a script",
  "  jython-complete names script.py im               Names visible at the end starting with 'im'",
  "  jython-complete members script.py imp --seed get Members of 'imp' starting with 'get'",
  "  jython-complete settings                         Show current configuration"]

/-- Help on a verb. -/
def verb : Verb → List String
  | .scope => [
    "usage: jython-complete scope [-h] file",
    "",
    "positional arguments:",
    "  file        Script file",
    "",
    "options:",
    "  -h, --help  show this help message and exit"]
  | .names => [
    "usage: jython-complete names [-h] file [prefix]",
    "",
    "positional arguments:",
    "  file        Script file",
    "  prefix      Name prefix",
    "",
    "options:",
    "  -h, --help  show this help message and exit"]
  | .members => [
    "usage: jython-complete members [-h] [--seed SEED] [--indent INDENT] file expression",
    "",
    "positional arguments:",
    "  file                  Script file",
    "  expression            Expression left of the dot",
    "",
    "options:",
    "  -h, --help            show this help message and exit",
    "  --seed SEED, -s SEED  Partial member name",
    "  --indent INDENT, -i INDENT",
    "                        Indentation of the line"]
  | .settings => [
    "usage: jython-complete settings [-h]",
    "",
    "options:",
    "  -h, --help  show this help message and exit"]

/-- The text of a help topic. -/
def text (topic : Option Verb) : String :=
  String.join (((topic.map verb).getD program).map (· ++ "\n"))

end ScriptScope.Cli.Help
