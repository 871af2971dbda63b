/-
This file reads command lines.
-/

import TraceCalc.CommandLine.Options
import TraceCalc.Text.Blank

namespace TraceCalc.CommandLine

/-- A module is written in the binary or in the text format. -/
inductive OutputFormat where
  | binary
  | text
  deriving DecidableEq, Repr

/-- A request is a command with all its arguments. -/
inductive Request where
  | evaluate (source : String) (bindings : List (String × Int64))
  | compile (source : String) (output : Option String) (format : OutputFormat)
  | interact
  deriving DecidableEq, Repr

/-- White space around the name and around the value is not part of them. -/
def readBinding (text : String) : Except BindingFault (String × Int64) :=
  let name := text.toList.takeWhile (· != '=')
  match text.toList.dropWhile (· != '=') with
  | [] => .error (.noValue text)
  | _ :: value =>
      match Text.Decimal.read (Text.trim value) with
      | .ok number => .ok (String.ofList (Text.trim name), number)
      | .error fault => .error (.invalidInteger (String.ofList value) fault)

/-- The evaluation knows one option, which binds a variable. -/
inductive EvaluateKey where
  | binding
  deriving DecidableEq, Repr

/-- A binding may be given any number of times. -/
def evaluateSpecification : Specification EvaluateKey (List (String × Int64)) where
  short? letter := if letter = 's' then some .binding else none
  long? name := if name = "set" then some .binding else none
  store _ text bindings :=
    match readBinding text with
    | .ok binding => .ok (bindings ++ [binding])
    | .error fault => .error (.invalidBinding fault)
  takesSource := true

/-- The compilation knows the options for the output file and for its format. -/
inductive CompileKey where
  | output
  | format
  deriving DecidableEq, Repr

/-- Each of the values may be left out. -/
structure CompileValues where
  output : Option String
  format : Option OutputFormat
  deriving DecidableEq, Repr

/-- A format is named by the usual suffix of its files. -/
def readFormat : String → Option OutputFormat
  | "wasm" => some .binary
  | "wat" => some .text
  | _ => none

/-- The second use of an option is refused before its value is checked. -/
def CompileValues.store (key : CompileKey) (text : String) (values : CompileValues) :
    Except Refusal CompileValues :=
  match key with
  | .output =>
      if values.output.isSome then .error .repeatedOption
      else if text.isEmpty then .error .emptyOutput
      else .ok { values with output := some text }
  | .format =>
      if values.format.isSome then .error .repeatedOption
      else
        match readFormat text with
        | some format => .ok { values with format := some format }
        | none => .error (.unknownFormat text)

/-- The options have one letter or their full name. -/
def compileSpecification : Specification CompileKey CompileValues where
  short? letter :=
    if letter = 'o' then some .output else if letter = 'f' then some .format else none
  long? name :=
    if name = "output" then some .output else if name = "format" then some .format else none
  store := CompileValues.store
  takesSource := true

/-- The interactive loop has no arguments of its own. -/
def interactSpecification : Specification Empty Unit where
  short? _ := none
  long? _ := none
  store _ _ _ := .ok ()
  takesSource := false

/-- A command line starts with one of these names. -/
inductive CommandName where
  | evaluate
  | compile
  | interact
  | help
  deriving DecidableEq, Repr

/-- Names are written in full and in lower case. -/
def CommandName.ofString? : String → Option CommandName
  | "eval" => some .evaluate
  | "compile" => some .compile
  | "repl" => some .interact
  | "help" => some .help
  | _ => none

/-- The bindings keep their order, so that a later one can replace an earlier one. -/
def readEvaluate (words : List String) : Except Refusal Request :=
  (evaluateSpecification.read [] words).bind fun reading =>
    match reading.source with
    | some source => .ok (.evaluate source reading.values)
    | none => .error .missingSource

/-- The text format is chosen where no format is given. -/
def readCompile (words : List String) : Except Refusal Request :=
  (compileSpecification.read ⟨none, none⟩ words).bind fun reading =>
    match reading.source with
    | some source =>
        .ok (.compile source reading.values.output (reading.values.format.getD .text))
    | none => .error .missingSource

/-- Any word but a request for help is refused. -/
def readInteract (words : List String) : Except Refusal Request :=
  (interactSpecification.read () words).map fun _ => .interact

/-- Help is given on a command, and the commands have no commands of their own. -/
def readHelp : List String → Refusal
  | [] => .help
  | word :: rest =>
      match CommandName.ofString? word, rest with
      | none, _ => .unknownCommand word
      | some _, [] => .help
      | some _, next :: _ => .unknownCommand next

/-- Every command reads the words after its name in its own way. -/
def readCommand (name : CommandName) (words : List String) : Except Refusal Request :=
  match name with
  | .evaluate => readEvaluate words
  | .compile => readCompile words
  | .interact => readInteract words
  | .help => .error (readHelp words)

/-- A command has no place after the terminator. -/
def readTerminated : List String → Except Refusal (Option Request)
  | [] => .ok none
  | word :: _ =>
      match CommandName.ofString? word with
      | some _ => .error (.unknownArgument word)
      | none => .error (.unknownCommand word)

/-- A first word that names no command can only ask for help. -/
def readOther (text : String) (rest : List String) : Except Refusal (Option Request) :=
  match Word.ofString text with
  | .terminator => readTerminated rest
  | .long "help" none => .error .help
  | .long "help" (some _) => .error .valueForHelp
  | .long _ _ => .error (.unknownArgument text)
  | .short 'h' _ => .error .help
  | .short _ _ => .error (.unknownArgument text)
  | .plain => .error (.unknownCommand text)

/-- No words at all are no request. -/
def read : List String → Except Refusal (Option Request)
  | [] => .ok none
  | word :: rest =>
      match CommandName.ofString? word with
      | some name => (readCommand name rest).map some
      | none => readOther word rest

end TraceCalc.CommandLine
