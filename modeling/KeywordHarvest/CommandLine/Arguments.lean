import KeywordHarvest.CommandLine.Flag
import KeywordHarvest.Settings.Load

/-! Reading the arguments of the command. A parameter takes its value from the same argument,
after an equals sign or right after its letter, or else from the next argument that does not look
like an option. What a parameter was given is examined only when the next option comes or the
arguments end, so a fault in between is found first. -/

namespace KeywordHarvest.CommandLine

inductive Wrong
  | valueMissing (which : Parameter)
  | repeated (flag : Flag)
  | notText
  | unknownFormat (name : String)
  | valueUnwanted (value : String) (which : Switch)
  | unexpected (argument : String)
  deriving DecidableEq

def Wrong.message : Wrong → String
  | valueMissing which =>
      "a value is required for '" ++ (Flag.parameter which).form ++ "' but none was supplied"
  | repeated flag => "the argument '" ++ flag.form ++ "' cannot be used multiple times"
  | notText => "invalid UTF-8 was detected in one or more arguments"
  | unknownFormat name =>
      "invalid value '" ++ name ++ "' for '" ++ (Flag.parameter .format).form ++ "'"
  | valueUnwanted value which =>
      "unexpected value '" ++ value ++ "' for '" ++ (Flag.switch which).form ++
        "' found; no more were expected"
  | unexpected argument => "unexpected argument '" ++ argument ++ "' found"

inductive Stop
  | help
  | version
  | wrong (fault : Wrong)
  deriving DecidableEq

structure Given where
  value : Parameter → Option String
  isOn : Switch → Bool

namespace Given

def nothing : Given := ⟨fun _ => none, fun _ => false⟩

def setValue (given : Given) (which : Parameter) (value : String) : Given :=
  { given with value := fun other => if other = which then some value else given.value other }

def setOn (given : Given) (which : Switch) : Given :=
  { given with isOn := fun other => other = which || given.isOn other }

end Given

/-- A format has to be one of the known names; every other value is free. -/
def checkValue (which : Parameter) (value : String) : Except Wrong Unit :=
  if which = .format then
    if value = "" then .error (.valueMissing which)
    else if (Format.ofName? value).isSome then .ok () else .error (.unknownFormat value)
  else .ok ()

def Given.take (given : Given) (which : Parameter) (value : Option Bytes) : Except Stop Given :=
  match value with
  | none => .error (.wrong (.valueMissing which))
  | some bytes =>
      if (given.value which).isSome then .error (.wrong (.repeated (.parameter which)))
      else
        match Text.decode? bytes with
        | none => .error (.wrong .notText)
        | some text =>
            match checkValue which text with
            | .error fault => .error (.wrong fault)
            | .ok () => .ok (given.setValue which text)

def Given.turnOn (given : Given) (which : Switch) : Except Stop Given :=
  match which with
  | .help => .error .help
  | .version => .error .version
  | _ =>
      if given.isOn which then .error (.wrong (.repeated (.switch which)))
      else .ok (given.setOn which)

/-- The options examined so far, and the last parameter with its value, not yet examined. -/
structure Progress where
  given : Given
  pending : Option (Parameter × Option Bytes)

namespace Progress

def start : Progress := ⟨.nothing, none⟩

def settle (progress : Progress) : Except Stop Given :=
  match progress.pending with
  | none => .ok progress.given
  | some (which, value) => progress.given.take which value

def await (progress : Progress) (which : Parameter) : Except Stop Progress := do
  return ⟨← progress.settle, some (which, none)⟩

def attach (progress : Progress) (which : Parameter) (value : Bytes) : Except Stop Progress := do
  return ⟨← (← progress.settle).take which (some value), none⟩

def turnOn (progress : Progress) (which : Switch) : Except Stop Progress := do
  return ⟨← (← progress.settle).turnOn which, none⟩

def long (progress : Progress) (name : Bytes) (value : Option Bytes) : Except Stop Progress :=
  match Flag.ofName? (Text.lenient name), value with
  | some (.parameter which), none => progress.await which
  | some (.parameter which), some value => progress.attach which value
  | some (.switch which), none => progress.turnOn which
  | some (.switch which), some value =>
      .error (.wrong (.valueUnwanted (Text.lenient value) which))
  | none, _ => .error (.wrong (.unexpected ("--" ++ Text.lenient name)))

/-- What is shown of letters that stand for no option: the first of them, or all that is left where
they do not start with a character. -/
def unknownLetter (letters : Bytes) : String :=
  match Text.pieces letters with
  | some letter :: _ => String.ofList ['-', letter]
  | _ => "-" ++ Text.lenient letters

/-- Letters in one argument. The rest of the argument is the value of the first parameter, with or
without an equals sign between them. -/
def short (progress : Progress) (letters : Bytes) : Except Stop Progress :=
  match letters with
  | [] => .ok progress
  | byte :: rest =>
      match Flag.ofLetter? (Char.ofNat byte.toNat), rest with
      | some (.switch which), _ => do short (← progress.turnOn which) rest
      | some (.parameter which), [] => progress.await which
      | some (.parameter which), 0x3D :: value => progress.attach which value
      | some (.parameter which), value => progress.attach which value
      | none, _ => .error (.wrong (.unexpected (unknownLetter (byte :: rest))))

def word (progress : Progress) (bytes : Bytes) : Except Stop Progress :=
  match progress.pending with
  | some (which, none) => .ok { progress with pending := some (which, some bytes) }
  | _ => .error (.wrong (.unexpected (Text.lenient bytes)))

end Progress

inductive Argument
  | separator
  | long (name : Bytes) (value : Option Bytes)
  | short (letters : Bytes)
  | word (bytes : Bytes)
  deriving DecidableEq

def splitValue (bytes : Bytes) : Bytes × Option Bytes :=
  match bytes.dropWhile (· ≠ 0x3D) with
  | [] => (bytes, none)
  | _ :: value => (bytes.takeWhile (· ≠ 0x3D), some value)

def Argument.ofBytes : Bytes → Argument
  | [0x2D, 0x2D] => separator
  | 0x2D :: 0x2D :: rest => long (splitValue rest).1 (splitValue rest).2
  | 0x2D :: first :: letters => short (first :: letters)
  | bytes => word bytes

/-- After a separator no argument is an option, and none is expected. -/
def Progress.read (progress : Progress) : List Bytes → Except Stop Given
  | [] => progress.settle
  | argument :: others =>
      match Argument.ofBytes argument with
      | .separator =>
          match others with
          | [] => progress.settle
          | extra :: _ => .error (.wrong (.unexpected (Text.lenient extra)))
      | .long name value => do (← progress.long name value).read others
      | .short letters => do (← progress.short letters).read others
      | .word bytes => do (← progress.word bytes).read others

structure Request where
  overrides : Overrides
  toStdout : Bool
  verbose : Bool

def Given.request (given : Given) : Request where
  overrides :=
    { configFile := (given.value .config).map Text.encode
      input := (given.value .input).map Text.encode
      output := (given.value .output).map Text.encode
      marker := given.value .marker
      listName := given.value .listName
      format := (given.value .format).bind Format.ofName? }
  toStdout := given.isOn .stdout
  verbose := given.isOn .verbose

def request (arguments : List Bytes) : Except Stop Request := do
  return (← Progress.start.read arguments).request

example : Argument.ofBytes (Text.encode "--format=json") =
    .long (Text.encode "format") (some (Text.encode "json")) := by decide +kernel

end KeywordHarvest.CommandLine
