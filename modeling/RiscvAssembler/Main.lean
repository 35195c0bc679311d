import RiscvAssembler.CommandLine.Report

/-!
# The command line program
-/

open RiscvAssembler in
/-- Prints the report for the arguments and the environment and exits with its code. -/
def main (arguments : List String) : IO UInt32 := do
  let size ← IO.getEnv Features.maxVectorSizeVariable
  let rvc ← IO.getEnv Features.rvcVariable
  let rvv ← IO.getEnv Features.rvvVariable
  let lookup (name : String) : Option String :=
    if name = Features.maxVectorSizeVariable then size
    else if name = Features.rvcVariable then rvc
    else if name = Features.rvvVariable then rvv
    else none
  let report := CommandLine.report .foreign lookup arguments
  for line in report.output do
    IO.println line
  if let some text := report.errors then
    (← IO.getStderr).putStr text
  return UInt32.ofNat report.exitCode
