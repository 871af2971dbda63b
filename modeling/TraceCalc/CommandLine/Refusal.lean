/-
This file lists the causes for which a command line is refused.
-/

import TraceCalc.Text.Decimal

namespace TraceCalc.CommandLine

/-- A binding without an equals sign or without an integer cannot be used. -/
inductive BindingFault where
  | noValue (text : String)
  | invalidInteger (value : String) (fault : Text.Decimal.Fault)
  deriving DecidableEq, Repr

/-- The message quotes the text as it was written. -/
def BindingFault.message : BindingFault → String
  | .noValue text => "expected NAME=VALUE, found `" ++ text ++ "`"
  | .invalidInteger value fault => "invalid integer `" ++ value ++ "`: " ++ fault.message

/-- A request for help also ends the reading of the command line. -/
inductive Refusal where
  | help
  | valueForHelp
  | unknownCommand (word : String)
  | unknownArgument (word : String)
  | missingSource
  | missingValue
  | repeatedOption
  | emptyOutput
  | unknownFormat (name : String)
  | invalidBinding (fault : BindingFault)
  deriving DecidableEq, Repr

namespace Refusal

/-- The usage lists the commands with their arguments. -/
def usage : String :=
  "Usage: tracecalc [COMMAND]\n\n" ++
  "Commands:\n" ++
  "  eval <EXPR> [-s|--set NAME=VALUE]...\n" ++
  "  compile <EXPR> [-o|--output FILE] [-f|--format wasm|wat]\n" ++
  "  repl\n" ++
  "  help [COMMAND]...\n"

/-- The message is printed before the program ends. -/
def message : Refusal → String
  | .help => usage
  | .valueForHelp => "error: the option --help takes no value"
  | .unknownCommand word => "error: unknown command '" ++ word ++ "'"
  | .unknownArgument word => "error: unexpected argument '" ++ word ++ "'"
  | .missingSource => "error: the expression is missing"
  | .missingValue => "error: an option has no value"
  | .repeatedOption => "error: an option is given twice"
  | .emptyOutput => "error: the name of the output file is empty"
  | .unknownFormat name => "error: unknown format '" ++ name ++ "'"
  | .invalidBinding fault => "error: invalid binding: " ++ fault.message

/-- A request for help is not a failure. -/
def exitCode : Refusal → Nat
  | .help => 0
  | _ => 2

end Refusal

end TraceCalc.CommandLine
