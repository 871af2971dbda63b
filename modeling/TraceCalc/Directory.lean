/-
This file tells where a document goes when the working directory has no entries yet.
-/

import TraceCalc.Error

namespace TraceCalc

/-- Besides the working directory, only the directories that every system has are known. -/
inductive Directory where
  | working
  | root
  | devices
  | temporary
  deriving DecidableEq, Repr

/-- A destination takes the content of a document. -/
inductive Destination where
  | entry (name : String)
  | standardOutput
  | standardError
  | elsewhere
  deriving DecidableEq, Repr

namespace Destination

/-- The devices that take a document or refuse it. -/
def device? : String → Option (Except Error Destination)
  | "null" | "zero" => some (.ok .elsewhere)
  | "full" => some (.error .noSpace)
  | "stdout" => some (.ok .standardOutput)
  | "stderr" => some (.ok .standardError)
  | _ => none

end Destination

namespace Directory

/-- A directory entry has at most this many bytes in its name. -/
def nameLimit : Nat := 255

/-- A path has at most this many bytes. -/
def pathLimit : Nat := 4095

/-- The directory in which the path of a document starts. -/
def start (path : String) : Directory :=
  if path.toList.head? = some '/' then .root else .working

/-- Slashes separate components, and those at the end separate nothing. -/
def components (path : String) : List String :=
  (((path.toList.reverse.dropWhile (· == '/')).reverse).splitOnP (· == '/')).map String.ofList

/-- The links of a directory lead to itself and to the root, which stands above every directory. -/
def link? (directory : Directory) : String → Option Directory
  | "" | "." => some directory
  | ".." => some .root
  | _ => none

/-- The subdirectories that are known. -/
def child? : Directory → String → Option Directory
  | .root, "dev" => some .devices
  | .root, "tmp" => some .temporary
  | _, _ => none

/-- A name that is too long is refused before it is looked up. -/
def enter (directory : Directory) (name : String) : Except Error Directory :=
  match directory.link? name with
  | some linked => .ok linked
  | none =>
      if nameLimit < name.utf8ByteSize then .error .nameTooLong
      else match directory.child? name with
        | some child => .ok child
        | none =>
            if directory = .devices ∧ (Destination.device? name).isSome then .error .notDirectory
            else .error .fileNotFound

/-- A document takes the place of a device or becomes a new entry, but no directory. -/
def create (directory : Directory) (name : String) : Except Error Destination :=
  if (directory.link? name).isSome then .error .isDirectory
  else if nameLimit < name.utf8ByteSize then .error .nameTooLong
  else if (directory.child? name).isSome then .error .isDirectory
  else match directory with
    | .working => .ok (.entry name)
    | .devices => (Destination.device? name).getD (.ok .elsewhere)
    | _ => .ok .elsewhere

end Directory

open Directory in
/-- All components but the last one are entered, and a slash after the last asks for a directory. -/
def Destination.ofPath (path : String) : Except Error Destination :=
  if pathLimit < path.utf8ByteSize then .error .nameTooLong
  else
    ((components path).dropLast.foldlM Directory.enter (start path)).bind fun directory =>
      if path.toList.getLast? = some '/' then .error .isDirectory
      else directory.create ((components path).getLast?.getD "")

end TraceCalc
