import RiscvAssembler.Features
import RiscvAssembler.Text.Plain

/-!
# Help

The usage of the program and one entry for each option. The entry of the size shows the value that
the environment gives it; further lines of that value stand under the descriptions.
-/

namespace RiscvAssembler.CommandLine

/-- What the help says about an option. -/
structure HelpEntry where
  short : Option String
  long : String
  /-- What the option is followed by. -/
  operand : String
  description : String

namespace HelpEntry

/-- The column of the descriptions. -/
def indent : Nat :=
  33

def spaces (n : Nat) : String :=
  String.ofList (List.replicate n ' ')

/-- Bold text on a terminal. -/
def bold (s : String) : String :=
  "\x1b[1m" ++ s ++ "\x1b[0m"

def indented (s : String) : String :=
  String.ofList (s.toList.flatMap fun c => if c = '\n' then c :: (spaces indent).toList else [c])

/-- The names of the option and its description, for a terminal. -/
def text (e : HelpEntry) : String :=
  let short := match e.short with
    | some name => bold name ++ ", "
    | none => spaces 4
  spaces 2 ++ short ++ bold e.long ++ e.operand ++
    spaces (indent - 6 - (e.long ++ e.operand).length) ++ indented e.description

end HelpEntry

def helpEntries (lookup : String → Option String) : List HelpEntry :=
  let size := (lookup Features.maxVectorSizeVariable).getD ""
  [
    ⟨none, "--no-rvc", "", "Never emit compressed instructions"⟩,
    ⟨none, "--no-rvv", "", "Skip the vector probe and disable vector instructions"⟩,
    ⟨none, "--max-vector-size", " <BYTES>",
      s!"Requested maximum vector size in bytes [env: {Features.maxVectorSizeVariable}={size}]"⟩,
    ⟨none, "--dump", "", "Hex-dump the probe stub and its fault points"⟩,
    ⟨none, "--demo", "", "Assemble a small function with and without compression"⟩,
    ⟨some "-h", "--help", "", "Print help"⟩,
    ⟨some "-V", "--version", "", "Print version"⟩]

/-- The lines of the help, for an output that is not a terminal. -/
def helpSection (lookup : String → Option String) : List String :=
  let rows := ["Usage: rvprobe [OPTIONS]", "", "Options:"] ++
    (helpEntries lookup).map HelpEntry.text
  (Text.lines (Text.plain ("\n".intercalate rows).toList)).map String.ofList

def versionSection : List String :=
  ["rvjit-rvprobe 0.1.0"]

end RiscvAssembler.CommandLine
