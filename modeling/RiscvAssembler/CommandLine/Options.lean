import RiscvAssembler.Features

/-!
# Options of the command line

Four switches and a vector size, each given at most once. The size may also come from the
environment.
-/

namespace RiscvAssembler.CommandLine

structure Options where
  noRvc : Bool
  noRvv : Bool
  dump : Bool
  demo : Bool
  maxVectorSize : Option Nat
  deriving DecidableEq

inductive UsageError
  | unexpected (argument : String)
  | repeated (option : String)
  | missingValue (option : String)
  | invalidValue (option value : String)
  deriving DecidableEq

def UsageError.message : UsageError → String
  | unexpected argument => s!"unexpected argument {Text.quoted argument}"
  | repeated option => s!"{option} cannot be used more than once"
  | missingValue option => s!"{option} needs a value"
  | invalidValue option value => s!"invalid value {Text.quoted value} for {option}"

inductive Request
  | probe (o : Options)
  | help
  | version
  deriving DecidableEq

namespace Options

def empty : Options :=
  ⟨false, false, false, false, none⟩

def sizeOption : String :=
  "--max-vector-size"

/-- The size that `value` stands for, in plain decimal. -/
def size (option value : String) : Except UsageError Nat :=
  match Text.unsigned? value.toList with
  | some n => .ok n
  | none => .error (.invalidValue option value)

def setSize (o : Options) (value : String) : Except UsageError Options := do
  let n ← size sizeOption value
  if o.maxVectorSize.isSome then
    throw (.repeated sizeOption)
  return { o with maxVectorSize := some n }

/-- Turns a switch on, unless it is on already. -/
def switch (o : Options) (argument : String) : Except UsageError Options :=
  let once (given : Bool) (o : Options) : Except UsageError Options :=
    if given then .error (.repeated argument) else .ok o
  match argument with
  | "--no-rvc" => once o.noRvc { o with noRvc := true }
  | "--no-rvv" => once o.noRvv { o with noRvv := true }
  | "--dump" => once o.dump { o with dump := true }
  | "--demo" => once o.demo { o with demo := true }
  | _ => .error (.unexpected argument)

/-- The value behind `--max-vector-size=`. -/
def attachedSize? (argument : String) : Option String :=
  let key := (sizeOption ++ "=").toList
  if key.isPrefixOf argument.toList then
    some (String.ofList (argument.toList.drop key.length))
  else
    none

/-- Reads arguments from left to right. A size in an argument of its own must not look like an
option, and nothing may follow `--`. -/
def parse (o : Options) : List String → Except UsageError Request
  | [] => .ok (.probe o)
  | argument :: rest => do
    if argument = "--" then
      match rest with
      | [] => return .probe o
      | next :: _ => throw (.unexpected next)
    else if argument = "--help" ∨ argument.startsWith "-h" then
      return .help
    else if argument = "--version" ∨ argument.startsWith "-V" then
      return .version
    else if argument = sizeOption then
      match rest with
      | value :: rest =>
        if value.startsWith "-" ∧ value ≠ "-" then
          throw (.missingValue sizeOption)
        parse (← o.setSize value) rest
      | [] => throw (.missingValue sizeOption)
    else
      match attachedSize? argument with
      | some value => parse (← o.setSize value) rest
      | none => parse (← o.switch argument) rest

/-- Takes the size from the environment when no option gives it. -/
def orFromEnvironment (o : Options) (lookup : String → Option String) :
    Except UsageError Options := do
  match o.maxVectorSize, lookup Features.maxVectorSizeVariable with
  | none, some value =>
    return { o with maxVectorSize := some (← size Features.maxVectorSizeVariable value) }
  | _, _ => return o

end Options

end RiscvAssembler.CommandLine
