/-
This file reads the words of a command that has options and at most one expression.
-/

import TraceCalc.CommandLine.Refusal

namespace TraceCalc.CommandLine

/-- The form of a word decides whether it is an option. -/
inductive Word where
  | terminator
  | long (name : String) (attached : Option String)
  | short (letter : Char) (attached : Option String)
  | plain
  deriving DecidableEq, Repr

namespace Word

/-- The value of a long option may follow an equals sign. -/
def ofLong (text : List Char) : Word :=
  let name := String.ofList (text.takeWhile (· != '='))
  match text.dropWhile (· != '=') with
  | [] => .long name none
  | _ :: attached => .long name (some (String.ofList attached))

/-- The value of a short option may follow its letter, with or without an equals sign. -/
def ofShort (letter : Char) : List Char → Word
  | [] => .short letter none
  | '=' :: attached => .short letter (some (String.ofList attached))
  | attached => .short letter (some (String.ofList attached))

/-- A single hyphen is a plain word. -/
def ofString (text : String) : Word :=
  match text.toList with
  | ['-', '-'] => .terminator
  | '-' :: '-' :: rest => ofLong rest
  | '-' :: letter :: rest => ofShort letter rest
  | _ => .plain

end Word

/-- A specification names the options of a command and checks their values. -/
structure Specification (Key Values : Type) where
  short? : Char → Option Key
  long? : String → Option Key
  store : Key → String → Values → Except Refusal Values
  takesSource : Bool

/-- A pending option waits for its value, or for the next word that ends it. -/
structure Pending (Key : Type) where
  key : Key
  value : Option String

/-- After the terminator, every word is an expression. -/
structure Reading (Key Values : Type) where
  values : Values
  source : Option String
  pending : Option (Pending Key)
  terminated : Bool

namespace Reading

variable {Key Values : Type}

/-- Nothing was read yet. -/
def start (values : Values) : Reading Key Values := ⟨values, none, none, false⟩

/-- A value that follows its option is checked only here. -/
def settle (specification : Specification Key Values) (reading : Reading Key Values) :
    Except Refusal (Reading Key Values) :=
  match reading.pending with
  | none => .ok reading
  | some ⟨_, none⟩ => .error .missingValue
  | some ⟨key, some value⟩ =>
      (specification.store key value reading.values).map fun values =>
        { reading with values, pending := none }

/-- An attached value is checked at once. -/
def takeOption (specification : Specification Key Values) (key : Key) (attached : Option String)
    (reading : Reading Key Values) : Except Refusal (Reading Key Values) :=
  (reading.settle specification).bind fun settled =>
    match attached with
    | some value =>
        (specification.store key value settled.values).map fun values => { settled with values }
    | none => .ok { settled with pending := some ⟨key, none⟩ }

/-- A word without a place is refused before the pending option is checked. -/
def takeSource (specification : Specification Key Values) (text : String)
    (reading : Reading Key Values) : Except Refusal (Reading Key Values) :=
  if specification.takesSource && reading.source.isNone then
    (reading.settle specification).map fun settled => { settled with source := some text }
  else .error (.unknownArgument text)

/-- A request for help is granted when the pending option is complete. -/
def takeHelp (specification : Specification Key Values) (reading : Reading Key Values) :
    Except Refusal (Reading Key Values) :=
  (reading.settle specification).bind fun _ => .error .help

/-- A plain word is the value of the option before it, if that option still needs one. -/
def takePlain (specification : Specification Key Values) (text : String)
    (reading : Reading Key Values) : Except Refusal (Reading Key Values) :=
  match reading.pending with
  | some ⟨key, none⟩ => .ok { reading with pending := some ⟨key, some text⟩ }
  | _ => reading.takeSource specification text

/-- A long option is known by its full name only. -/
def takeLong (specification : Specification Key Values) (text name : String)
    (attached : Option String) (reading : Reading Key Values) :
    Except Refusal (Reading Key Values) :=
  if name = "help" then
    if attached.isSome then .error .valueForHelp else reading.takeHelp specification
  else
    match specification.long? name with
    | some key => reading.takeOption specification key attached
    | none => .error (.unknownArgument text)

/-- A short option is known by its letter. -/
def takeShort (specification : Specification Key Values) (text : String) (letter : Char)
    (attached : Option String) (reading : Reading Key Values) :
    Except Refusal (Reading Key Values) :=
  if letter = 'h' then reading.takeHelp specification
  else
    match specification.short? letter with
    | some key => reading.takeOption specification key attached
    | none => .error (.unknownArgument text)

/-- Every word is taken by its form. -/
def take (specification : Specification Key Values) (reading : Reading Key Values)
    (text : String) : Except Refusal (Reading Key Values) :=
  if reading.terminated then reading.takeSource specification text
  else
    match Word.ofString text with
    | .terminator => .ok { reading with terminated := true }
    | .long name attached => reading.takeLong specification text name attached
    | .short letter attached => reading.takeShort specification text letter attached
    | .plain => reading.takePlain specification text

end Reading

/-- The words are read from the left, and the last pending option is checked at the end. -/
def Specification.read {Key Values : Type} (specification : Specification Key Values)
    (values : Values) (words : List String) : Except Refusal (Reading Key Values) :=
  (words.foldlM (Reading.take specification) (Reading.start values)).bind
    (Reading.settle specification)

end TraceCalc.CommandLine
