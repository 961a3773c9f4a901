/-
# What the program says about itself

Two texts that tell how the program is used, a short and a long one, and two that tell its version.
A text of usage begins with the name that the program was called by.

Key definitions: `Help.short`, `Help.long`, `Help.version`, `Help.longVersion`.
-/
namespace StreamEditor
namespace Help

/-- The name of the program. -/
def programName : String := "ccsed"

/-- The version of the program. -/
def versionNumber : String := "0.1.0"

/-- How the program is called. -/
def usage (called : String) : String :=
  "Usage: " ++ called ++ " [OPTIONS] [DIRECTIVE] [FILE]\n"

/-- The version of the program in one line. -/
def version : String := programName ++ " " ++ versionNumber ++ "\n"

/-- The version of the program and more about it. -/
def longVersion : String :=
  programName ++ " " ++ versionNumber ++ "\n\nLicense: MIT\nRust Edition: 2024\n"

/-- Lines of text. -/
def lines (ls : List String) : String :=
  String.join (ls.map (· ++ "\n"))

/-- The short text. -/
def short (called : String) : String :=
  "Minimal stream editor: one substitution, optional line range\n\n" ++ usage called ++
  lines
    ["",
     "Arguments:",
     "  [DIRECTIVE]  Substitution directive (e.g., 's/old/new/g', '2,4p', 'G')",
     "  [FILE]       Input file (defaults to stdin)",
     "",
     "Options:",
     "  -n, --quiet                  Only print selected lines " ++
       "(enables START,ENDp range directives)",
     "  -i, --in-place               Edit FILE in place",
     "      --config <PATH>          Configuration file (default: ~/.ccsed/config.toml)",
     "      --debug                  Write debug logs to ~/.ccsed/ccsed.log",
     "      --flag-semantics <MODE>  Whether substitution flags change execution " ++
       "(overrides config) [possible values: reference, sed]",
     "  -h, --help                   Print help (see more with '--help')",
     "  -V, --version                Print version"]

/-- The long text. -/
def long (called : String) : String :=
  lines
    ["ccsed reads text line by line, applies a single substitution and writes the result.",
     "",
     "DIRECTIVES:",
     "  s/PATTERN/REPLACEMENT/FLAG   Replace PATTERN (a Rust regex) with REPLACEMENT.",
     "                               REPLACEMENT may use $1, $\x7bname\x7d capture groups.",
     "                               FLAG is one of g, gi, d, p; anything else is ignored.",
     "  START,ENDp                   With -n: print lines START..END, numbered.",
     "  G                            Double-space the input.",
     "",
     "STDIN/STDOUT:",
     "  When no file is given, ccsed reads from stdin. Output goes to stdout",
     "  unless -i rewrites the file in place.",
     "",
     "EXAMPLES:",
     "  ccsed 's/foo/bar/g' file.txt              Replace all occurrences",
     "  cat file.txt | ccsed 's/(\\w+)/<$1>/g'    Wrap every word",
     "  ccsed -n '2,4p' file.txt                  Print lines 2 to 4 with numbers",
     "  ccsed G file.txt                          Double-space a file",
     "  ccsed -i 's/foo/bar/g' file.txt           Edit file.txt in place",
     ""] ++
  usage called ++
  lines
    ["",
     "Arguments:",
     "  [DIRECTIVE]",
     "          Substitution directive (e.g., 's/old/new/g', '2,4p', 'G')",
     "",
     "  [FILE]",
     "          Input file (defaults to stdin)",
     "",
     "Options:",
     "  -n, --quiet",
     "          Only print selected lines (enables START,ENDp range directives)",
     "",
     "  -i, --in-place",
     "          Edit FILE in place",
     "",
     "      --config <PATH>",
     "          Configuration file (default: ~/.ccsed/config.toml)",
     "",
     "      --debug",
     "          Write debug logs to ~/.ccsed/ccsed.log",
     "",
     "      --flag-semantics <MODE>",
     "          Whether substitution flags change execution (overrides config)",
     "",
     "          Possible values:",
     "          - reference: Flags are parsed and kept, " ++
       "replacement is always global and case-sensitive",
     "          - sed:       Flags change execution: " ++
       "first-match vs global, case folding, delete, print",
     "",
     "  -h, --help",
     "          Print help (see a summary with '-h')",
     "",
     "  -V, --version",
     "          Print version"]

end Help
end StreamEditor
