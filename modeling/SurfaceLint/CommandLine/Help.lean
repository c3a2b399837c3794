/-!
# Help texts

What the commands print about themselves. The part up to the first blank line also heads
every report of a mistake.
-/

namespace SurfaceLint.Help

def program : String :=
  "usage: hovererrors [-h] [-V] \x7bcheck,c,explain,x,rules\x7d ...\n" ++
  "\n" ++
  "hover-errors - heuristic diagnostics for JavaScript, TypeScript and Java\n" ++
  "\n" ++
  "positional arguments:\n" ++
  "  \x7bcheck,c,explain,x,rules\x7d\n" ++
  "                        Available commands\n" ++
  "    check (c)           Report diagnostics for one or more files\n" ++
  "    explain (x)         Explain the issue at a line and column\n" ++
  "    rules               List all rules\n" ++
  "\n" ++
  "options:\n" ++
  "  -h, --help            show this help message and exit\n" ++
  "  -V, --version         show program's version number and exit\n"

def version : String := "hovererrors 0.1.0\n"

def check : String :=
  "usage: hovererrors check [-h] [--dialect DIALECT] [--lang \x7ben,hi\x7d]\n" ++
  "                         [--allow RULE] [--json]\n" ++
  "                         inputs [inputs ...]\n" ++
  "\n" ++
  "positional arguments:\n" ++
  "  inputs             Input source files\n" ++
  "\n" ++
  "options:\n" ++
  "  -h, --help         show this help message and exit\n" ++
  "  --dialect DIALECT  Dialect of the input (javascript, typescript, java);\n" ++
  "                     guessed from the file suffix by default\n" ++
  "  --lang \x7ben,hi\x7d     Message language (default: $HOVER_ERRORS_LANGUAGE or\n" ++
  "                     'en')\n" ++
  "  --allow RULE       Disable a rule by code or name (e.g., 'missing-semicolon'\n" ++
  "                     or 'E0002'); repeatable\n" ++
  "  --json             Output results as JSON\n"

def explain : String :=
  "usage: hovererrors explain [-h] [--dialect DIALECT] input line column\n" ++
  "\n" ++
  "positional arguments:\n" ++
  "  input              Input source file\n" ++
  "  line               Line number (1-based)\n" ++
  "  column             Column number (1-based)\n" ++
  "\n" ++
  "options:\n" ++
  "  -h, --help         show this help message and exit\n" ++
  "  --dialect DIALECT  Dialect of the input (javascript, typescript, java);\n" ++
  "                     guessed from the file suffix by default\n"

def rules : String :=
  "usage: hovererrors rules [-h]\n" ++
  "\n" ++
  "options:\n" ++
  "  -h, --help  show this help message and exit\n"

def server : String :=
  "usage: hovererrors-lsp [-h] [--tcp] [--host HOST] [--port PORT]\n" ++
  "                       [--log-level \x7bdebug,info,warning,error\x7d]\n" ++
  "\n" ++
  "hover-errors Language Server\n" ++
  "\n" ++
  "options:\n" ++
  "  -h, --help            show this help message and exit\n" ++
  "  --tcp                 Start server in TCP mode instead of stdio\n" ++
  "  --host HOST           Host to bind to in TCP mode (default: 127.0.0.1)\n" ++
  "  --port PORT           Port to listen on in TCP mode (default: 2088)\n" ++
  "  --log-level \x7bdebug,info,warning,error\x7d\n" ++
  "                        Logging level (default: info)\n"

end SurfaceLint.Help
