import KeywordHarvest.Proofs.CommandLine.Spelling
import KeywordHarvest.Proofs.CommandLine.Printing

/-! Options in any order and any writing. Reading keeps, after each option that was written, exactly
the options so far; what a parameter still waits for is part of that once its value has come. So
the order and the writing leave no trace in the request. -/

namespace KeywordHarvest.CommandLine

variable {choice : Choice} {progress middle : Progress} {given next : Given} {found : List Flag}
  {which : Parameter} {value : String}

theorem not_mem_of_nodup_concat {flag : Flag} (distinct : (found ++ [flag]).Nodup) :
    flag ∉ found := by
  intro member
  exact (List.nodup_append.mp distinct).2.2 flag member flag List.mem_cons_self rfl

namespace Choice

def among (choice : Choice) (found : List Flag) : Given where
  value which := if .parameter which ∈ found then choice.value which else none
  isOn which := .switch which ∈ found

theorem take_among (given : choice.value which = some value) (new : .parameter which ∉ found) :
    (choice.among found).take which (some (Text.encode value)) =
      .ok (choice.among (found ++ [.parameter which])) := by
  have fits : checkValue which value = .ok () := by
    unfold checkValue
    by_cases format : which = .format
    · subst format
      have known := choice.known value given
      have filled : value ≠ "" := by
        rintro rfl
        cases known
      simp [known, filled]
    · simp [format]
  refine Given.take_eq_ok.mpr ⟨_, value, rfl, ?_, Text.decode?_encode value, fits, ?_⟩
  · simp [among, new]
  · simp only [among, Given.setValue, Given.mk.injEq]
    constructor
    · funext other
      by_cases same : other = which
      · subst same
        simp [given]
      · simp [same]
    · funext other
      simp

theorem turnOn_among {which : Switch} (on : choice.isOn which) (new : .switch which ∉ found) :
    (choice.among found).turnOn which = .ok (choice.among (found ++ [.switch which])) := by
  refine Given.turnOn_eq_ok.mpr ⟨?_, ?_, by simpa [among] using new, ?_⟩
  · rintro rfl
    cases on
  · rintro rfl
    cases on
  · simp only [among, Given.setOn, Given.mk.injEq]
    constructor
    · funext other
      simp
    · funext other
      simp [Bool.or_comm, eq_comm]

end Choice

namespace Progress

def Reaches (progress : Progress) (arguments : List String) (after : Progress) : Prop :=
  ∀ others, progress.read (arguments.map Text.encode ++ others) = after.read others

theorem Reaches.trans {first second third : Progress} {arguments rest : List String}
    (start : Reaches first arguments second) (more : Reaches second rest third) :
    Reaches first (arguments ++ rest) third := by
  intro others
  rw [List.map_append, List.append_assoc, start, more]

theorem await_of_settle (settled : progress.settle = .ok given) (which : Parameter) :
    progress.await which = .ok ⟨given, some (which, none)⟩ :=
  bind_eq_ok.mpr ⟨given, settled, rfl⟩

theorem attach_of_settle (settled : progress.settle = .ok given)
    (taken : given.take which (some (Text.encode value)) = .ok next) :
    progress.attach which (Text.encode value) = .ok ⟨next, none⟩ :=
  bind_eq_ok.mpr ⟨given, settled, bind_eq_ok.mpr ⟨next, taken, rfl⟩⟩

theorem turnOn_of_settle {which : Switch} (settled : progress.settle = .ok given)
    (turned : given.turnOn which = .ok next) : progress.turnOn which = .ok ⟨next, none⟩ :=
  bind_eq_ok.mpr ⟨given, settled, bind_eq_ok.mpr ⟨next, turned, rfl⟩⟩

theorem reaches_long {argument : String} {name : Bytes} {value : Option Bytes}
    (shape : Argument.ofBytes (Text.encode argument) = .long name value)
    (goes : progress.long name value = .ok middle) : Reaches progress [argument] middle := by
  intro others
  simp only [List.map_cons, List.map_nil, List.cons_append, List.nil_append, read, shape, goes]
  rfl

theorem reaches_short {argument : String} {letters : Bytes}
    (shape : Argument.ofBytes (Text.encode argument) = .short letters)
    (goes : progress.short letters = .ok middle) : Reaches progress [argument] middle := by
  intro others
  simp only [List.map_cons, List.map_nil, List.cons_append, List.nil_append, read, shape, goes]
  rfl

theorem reaches_word (modest : IsModest value) :
    Reaches ⟨given, some (which, none)⟩ [value]
      ⟨given, some (which, some (Text.encode value))⟩ := by
  intro others
  simp only [List.map_cons, List.map_nil, List.cons_append, List.nil_append, read,
    Argument.ofBytes_modest modest]
  rfl

theorem encode_letters {letter : Char} {byte : UInt8}
    (encoded : String.utf8EncodeChar letter = [byte]) (before after : List Char) (value : String) :
    Text.encode (String.ofList (before ++ letter :: after) ++ value) =
      Text.encode (String.ofList before) ++ byte :: Text.encode (String.ofList after ++ value) := by
  simp [Text.encode, encoded]

theorem short_equals {byte : UInt8} (value : Bytes)
    (stands : Flag.ofLetter? (Char.ofNat byte.toNat) = some (.parameter which)) :
    progress.short (byte :: 0x3D :: value) = progress.attach which value := by
  simp only [short.eq_def progress, stands]

theorem short_alone {byte : UInt8}
    (stands : Flag.ofLetter? (Char.ofNat byte.toNat) = some (.parameter which)) :
    progress.short [byte] = progress.await which := by
  simp only [short.eq_def progress, stands]

theorem reaches_byLetter {before : List Char} {arguments : List String}
    (alone : before = [] ∨ before = ['v'])
    (joins : ∀ rest, progress.short (Text.encode (String.ofList before) ++ rest) =
      middle.short rest)
    (settled : middle.settle = .ok given)
    (taken : given.take which (some (Text.encode value)) = .ok next)
    (lettered : ByLetter which value before arguments) :
    ∃ after, after.settle = .ok next ∧ Reaches progress arguments after := by
  cases lettered with
  | joined named modest =>
      obtain ⟨byte, encoded, _, stands⟩ := Flag.letter_byte named
      obtain ⟨first, more, bytes, _, notEquals⟩ := modest.encode
      refine ⟨⟨next, none⟩, rfl, reaches_short (Argument.ofBytes_joined alone named [] value) ?_⟩
      have attached := attach_of_settle settled taken
      have plain : Text.encode (String.ofList [] ++ value) = first :: more := by
        rw [Text.encode_append, bytes]
        rfl
      rw [bytes] at attached
      rw [encode_letters encoded, joins, plain]
      exact (short_value stands notEquals).trans attached
  | equals named =>
      obtain ⟨byte, encoded, _, stands⟩ := Flag.letter_byte named
      refine ⟨⟨next, none⟩, rfl, reaches_short (Argument.ofBytes_joined alone named ['='] value) ?_⟩
      rw [encode_letters encoded, joins, Text.encode_append]
      exact (short_equals _ stands).trans (attach_of_settle settled taken)
  | @apart letter named modest =>
      obtain ⟨byte, encoded, _, stands⟩ := Flag.letter_byte named
      have shape := Argument.ofBytes_joined alone named [] ""
      rw [String.append_empty] at shape
      have waits : progress.short (Text.encode (String.ofList (before ++ letter :: []) ++ "")) =
          .ok ⟨given, some (which, none)⟩ := by
        rw [encode_letters encoded, joins]
        exact (short_alone stands).trans (await_of_settle settled which)
      exact ⟨⟨given, some (which, some (Text.encode value))⟩, taken,
        (reaches_short shape waits).trans (reaches_word modest)⟩

theorem long_value (which : Parameter) (value : Bytes) :
    progress.long (Text.encode (Flag.parameter which).name) (some value) =
      progress.attach which value := by
  simp only [long, Flag.ofName?_encode]

theorem long_parameter (which : Parameter) :
    progress.long (Text.encode (Flag.parameter which).name) none = progress.await which := by
  simp only [long, Flag.ofName?_encode]

theorem short_switch {which : Switch} {byte : UInt8} (letters : Bytes)
    (stands : Flag.ofLetter? (Char.ofNat byte.toNat) = some (.switch which))
    (turned : progress.turnOn which = .ok middle) :
    progress.short (byte :: letters) = middle.short letters := by
  rw [short.eq_def]
  simp only [stands]
  exact congrArg (· >>= (·.short letters)) turned

theorem reaches_spelled {flags : List Flag} {arguments : List String}
    (settled : progress.settle = .ok (choice.among found)) (distinct : (found ++ flags).Nodup)
    (spelled : Spelled choice flags arguments) :
    ∃ after, after.settle = .ok (choice.among (found ++ flags)) ∧
      Reaches progress arguments after := by
  cases spelled with
  | @equals which value given =>
      have taken := Choice.take_among given (not_mem_of_nodup_concat distinct)
      refine ⟨⟨_, none⟩, rfl, reaches_long (Argument.ofBytes_equals (.parameter which) value) ?_⟩
      rw [long_value]
      exact attach_of_settle settled taken
  | @apart which value given modest =>
      have taken := Choice.take_among given (not_mem_of_nodup_concat distinct)
      have waits : progress.long (Text.encode (Flag.parameter which).name) none =
          .ok ⟨choice.among found, some (which, none)⟩ := by
        rw [long_parameter]
        exact await_of_settle settled which
      exact ⟨⟨choice.among found, some (which, some (Text.encode value))⟩, taken,
        (reaches_long (Argument.ofBytes_name _) waits).trans (reaches_word modest)⟩
  | letter given lettered =>
      have taken := Choice.take_among given (not_mem_of_nodup_concat distinct)
      exact reaches_byLetter (.inl rfl) (fun rest => rfl) settled taken lettered
  | @cluster which value arguments on given lettered =>
      have split : found ++ [.switch .verbose, .parameter which] =
          (found ++ [.switch .verbose]) ++ [.parameter which] := by simp
      rw [split] at distinct ⊢
      have earlier := (List.nodup_append.mp distinct).1
      have turned := Choice.turnOn_among on (not_mem_of_nodup_concat earlier)
      have taken := Choice.take_among given (not_mem_of_nodup_concat distinct)
      have joins (letters : Bytes) : progress.short (Text.encode (String.ofList ['v']) ++ letters) =
          short ⟨choice.among (found ++ [.switch .verbose]), none⟩ letters :=
        short_switch letters rfl (turnOn_of_settle settled turned)
      exact reaches_byLetter (.inr rfl) joins rfl taken lettered
  | @switch which on =>
      have turned := Choice.turnOn_among on (not_mem_of_nodup_concat distinct)
      refine ⟨⟨_, none⟩, rfl, reaches_long (Argument.ofBytes_name (.switch which)) ?_⟩
      rw [long_switch]
      exact turnOn_of_settle settled turned
  | @switchLetter which letter on named =>
      have turned := Choice.turnOn_among on (not_mem_of_nodup_concat distinct)
      obtain ⟨byte, encoded, notDash, stands⟩ := Flag.letter_byte named
      have bytes : Text.encode (String.ofList ['-', letter]) = [0x2D, byte] := by
        simp [Text.encode, encoded]
        rfl
      have shape := Argument.ofBytes_letters notDash []
      rw [← bytes] at shape
      refine ⟨⟨_, none⟩, rfl, reaches_short shape ?_⟩
      rw [short_switch [] stands (turnOn_of_settle settled turned)]
      rfl

theorem read_spells {flags : List Flag} {arguments : List String}
    (spells : Spells choice flags arguments)
    (settled : progress.settle = .ok (choice.among found)) (distinct : (found ++ flags).Nodup) :
    progress.read (arguments.map Text.encode) = .ok (choice.among (found ++ flags)) := by
  induction spells generalizing progress found with
  | nil => simpa [read] using settled
  | @cons flags others arguments rest first more ih =>
      rw [← List.append_assoc] at distinct ⊢
      obtain ⟨after, settled', reaches⟩ :=
        reaches_spelled settled (List.nodup_append.mp distinct).1 first
      rw [List.map_append, reaches]
      exact ih settled' distinct

end Progress

theorem Choice.among_all {order : List Flag} (all : ∀ flag, flag ∈ order ↔ choice.gives flag) :
    choice.among order = ⟨choice.value, choice.isOn⟩ := by
  simp only [among, Given.mk.injEq]
  constructor
  · funext which
    have given := all (.parameter which)
    cases free : choice.value which <;> simp_all [gives]
  · funext which
    have given := all (.switch which)
    simp_all [gives]

def Choice.request (choice : Choice) : Request where
  overrides :=
    { configFile := (choice.value .config).map Text.encode
      input := (choice.value .input).map Text.encode
      output := (choice.value .output).map Text.encode
      marker := choice.value .marker
      listName := choice.value .listName
      format := (choice.value .format).bind Format.ofName? }
  toStdout := choice.stdout
  verbose := choice.verbose

/-- However a choice is written, the arguments are accepted and ask for exactly that choice; so no
file tree tells two writings of it apart. -/
theorem request_of_written {arguments : List String} (written : choice.IsWritten arguments) :
    request (arguments.map Text.encode) = .ok choice.request ∧
      ∀ others, choice.IsWritten others → ∀ host tree,
        (run host (others.map Text.encode)).run tree =
          (run host (arguments.map Text.encode)).run tree := by
  have asks (arguments : List String) (written : choice.IsWritten arguments) :
      request (arguments.map Text.encode) = .ok choice.request := by
    obtain ⟨order, once, all, spells⟩ := written
    have nothing : Progress.start.settle = .ok (choice.among []) := by
      simp only [Progress.settle, Progress.start, Choice.among, List.not_mem_nil, if_false,
        decide_false]
      rfl
    have reads := Progress.read_spells spells nothing once
    rw [List.nil_append, Choice.among_all all] at reads
    exact request_eq_ok.mpr ⟨_, reads, rfl⟩
  refine ⟨asks arguments written, fun others written' host tree => ?_⟩
  rw [run_of_request (asks arguments written), run_of_request (asks others written')]

def mixedChoice : Choice where
  value
    | .input => some "--stdout"
    | .output => some "keywords"
    | .marker => some "="
    | .listName => some ""
    | .format => some "ts"
    | .config => none
  stdout := false
  verbose := true
  known := fun name named => by
    cases named
    rfl

def mixedArguments : List String :=
  ["-vokeywords", "--input=--stdout", "--format", "ts", "-m==", "--list-name="]

def otherArguments : List String :=
  ["-f=ts", "--marker==", "--list-name=", "-i=--stdout", "-v", "-o", "keywords"]

theorem mixedArguments_written : mixedChoice.IsWritten mixedArguments := by
  have output : ByLetter .output "keywords" ['v'] _ :=
    .joined rfl ⟨'k', _, rfl, by decide, by decide⟩
  have marker : ByLetter .marker "=" [] _ := .equals rfl
  have format : IsModest "ts" := ⟨'t', _, rfl, by decide, by decide⟩
  have spells : Spells mixedChoice _ _ :=
    .cons (.cluster rfl rfl output) (.cons (@Spelled.equals _ .input _ rfl)
      (.cons (@Spelled.apart _ .format _ rfl format) (.cons (.letter rfl marker)
        (.cons (@Spelled.equals _ .listName _ rfl) .nil))))
  obtain ⟨arguments, written, same⟩ : ∃ arguments, Spells mixedChoice _ arguments ∧
    arguments = mixedArguments := ⟨_, spells, by decide +kernel⟩
  refine ⟨_, ?_, ?_, same ▸ written⟩
  · decide
  · rintro (which | which) <;> cases which <;> decide

theorem otherArguments_written : mixedChoice.IsWritten otherArguments := by
  have format : ByLetter .format "ts" [] _ := .equals rfl
  have input : ByLetter .input "--stdout" [] _ := .equals rfl
  have output : ByLetter .output "keywords" [] _ := .apart rfl ⟨'k', _, rfl, by decide, by decide⟩
  have spells : Spells mixedChoice _ _ :=
    .cons (.letter rfl format) (.cons (@Spelled.equals _ .marker _ rfl)
      (.cons (@Spelled.equals _ .listName _ rfl) (.cons (.letter rfl input)
        (.cons (@Spelled.switchLetter _ .verbose 'v' rfl rfl) (.cons (.letter rfl output) .nil)))))
  obtain ⟨arguments, written, same⟩ : ∃ arguments, Spells mixedChoice _ arguments ∧
    arguments = otherArguments := ⟨_, spells, by decide +kernel⟩
  refine ⟨_, ?_, ?_, same ▸ written⟩
  · decide
  · rintro (which | which) <;> cases which <;> decide

def mixedRequest : Request where
  overrides :=
    { input := some (Text.encode "--stdout"), output := some (Text.encode "keywords")
      marker := some "=", listName := some "", format := some .typeScript }
  toStdout := false
  verbose := true

theorem request_of_written_mixed :
    mixedChoice.IsWritten mixedArguments ∧
      request (mixedArguments.map Text.encode) = .ok mixedRequest ∧
      ∀ host tree, (run host (otherArguments.map Text.encode)).run tree =
        (run host (mixedArguments.map Text.encode)).run tree := by
  obtain ⟨asks, alike⟩ := request_of_written mixedArguments_written
  exact ⟨mixedArguments_written, asks, alike otherArguments otherArguments_written⟩

end KeywordHarvest.CommandLine
