import KeywordHarvest.Listing

/-! The options of the command line. A parameter takes a value and a switch does not. Each has a
long name, most have a letter, and each has its line in the help text. -/

namespace KeywordHarvest.CommandLine

inductive Parameter
  | input
  | output
  | marker
  | listName
  | format
  | config
  deriving DecidableEq

inductive Switch
  | stdout
  | verbose
  | help
  | version
  deriving DecidableEq

inductive Flag
  | parameter (which : Parameter)
  | switch (which : Switch)
  deriving DecidableEq

namespace Flag

def name : Flag → String
  | parameter .input => "input"
  | parameter .output => "output"
  | parameter .marker => "marker"
  | parameter .listName => "list-name"
  | parameter .format => "format"
  | parameter .config => "config"
  | switch .stdout => "stdout"
  | switch .verbose => "verbose"
  | switch .help => "help"
  | switch .version => "version"

def letter? : Flag → Option Char
  | parameter .input => some 'i'
  | parameter .output => some 'o'
  | parameter .marker => some 'm'
  | parameter .listName => none
  | parameter .format => some 'f'
  | parameter .config => some 'c'
  | switch .stdout => none
  | switch .verbose => some 'v'
  | switch .help => some 'h'
  | switch .version => some 'V'

def description : Flag → String
  | parameter .input => "Grammar file to scan (default: tree-sitter-sql/grammar.js)"
  | parameter .output => "File to generate (default: src/sql.ts)"
  | parameter .marker => "Token preceding each keyword call (default: kw)"
  | parameter .listName => "Name of the exported list (default: KEYWORDS)"
  | parameter .format => "Output format [possible values: typescript, ts, json]"
  | parameter .config => "Additional configuration file layered over kwgen.toml"
  | switch .stdout => "Print the generated list instead of writing the output file"
  | switch .verbose => "Log each step to stderr"
  | switch .help => "Print help"
  | switch .version => "Print version"

def form : Flag → String
  | parameter which => "--" ++ (parameter which).name ++ " <" ++ (parameter which).name ++ ">"
  | switch which => "--" ++ (switch which).name

/-- In the order of the help text. -/
def all : List Flag :=
  [parameter .input, parameter .output, parameter .marker, parameter .listName, parameter .format,
    parameter .config, switch .stdout, switch .verbose, switch .help, switch .version]

def ofName? (name : String) : Option Flag := all.find? (·.name = name)

def ofLetter? (letter : Char) : Option Flag := all.find? (·.letter? = some letter)

theorem ofName?_name (flag : Flag) : ofName? flag.name = some flag := by
  rcases flag with which | which <;> cases which <;> rfl

end Flag

end KeywordHarvest.CommandLine
