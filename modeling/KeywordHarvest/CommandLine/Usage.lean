import KeywordHarvest.CommandLine.Flag

/-! The texts that tell how to use the command. Help lists the options one a line, each with its
letter, its form, and what it does, in columns. -/

namespace KeywordHarvest.CommandLine

namespace Usage

def version : String := "kwgen 0.1.0\n"

def summary : String := "Usage: kwgen [OPTIONS]\n"

/-- The longest form of an option. -/
def width : Nat := (Flag.all.map (·.form.length)).foldl max 0

def letterColumn (flag : Flag) : String :=
  match flag.letter? with
  | some letter => String.ofList ['-', letter, ',', ' ']
  | none => "    "

def line (flag : Flag) : String :=
  "  " ++ letterColumn flag ++ flag.form ++
    String.ofList (List.replicate (width + 2 - flag.form.length) ' ') ++ flag.description ++ "\n"

def help : String :=
  "Extract grammar keywords into a generated source list\n\n" ++ summary ++ "\nOptions:\n" ++
    String.join (Flag.all.map line)

example : line (.parameter .format) =
    "  -f, --format <format>        Output format [possible values: typescript, ts, json]\n" := by
  decide +kernel

end Usage

end KeywordHarvest.CommandLine
