/-!
# Help

What is printed when help or the version is asked for.
-/

namespace GoldenSuite.CommandLine

def versionText : String :=
  "simcheck 0.1.0\n"

def optionLines : List String :=
  ["      --root <DIR>            Project root holding the simulator sources and integration tests",
   "      --config <FILE>         JSON configuration file (defaults to ./simcheck.json when present)",
   "      --source-dir <DIR>      Simulator source tree, relative to the root",
   "      --build-dir <DIR>       Compiled output directory, relative to the root",
   "      --tests-dir <DIR>       " ++
     "Directory whose subdirectories are test cases, relative to the root",
   "      --compiler <PROG>       Compiler program",
   "      --runtime <PROG>        Runtime program used to launch the simulator",
   "      --entry-point <SYM>     Simulator entry point symbol",
   "      --sim-arg <ARG>         Extra simulator argument after the input directory (repeatable)",
   "      --build-timeout <SECS>  Build deadline in seconds (0 disables)",
   "      --test-timeout <SECS>   Per-case simulator deadline in seconds (0 disables)",
   "      --strict-logs           Fail cases whose log exists on only one side",
   "      --clean                 Remove each case's output directory before running it",
   "      --color <WHEN>          " ++
     "Colorize verdict lines [default: auto] [possible values: auto, always, never]",
   "  -v, --verbose...            Raise log verbosity (-v info, -vv debug)",
   "  -h, --help                  Print help",
   "  -V, --version               Print version"]

/-- What the program does, how it is called, and its options. -/
def helpText : String :=
  String.join ((["Build the simulator and check every integration case against its golden files",
    "", "Usage: simcheck [OPTIONS]", "", "Options:"] ++ optionLines).map (· ++ "\n"))

end GoldenSuite.CommandLine
