import RiscvAssembler.Compact.Text
import RiscvAssembler.Main
import RiscvAssembler.Mnemonic.Catalog
import RiscvAssembler.Proofs.Displacement
import RiscvAssembler.Proofs.Listing
import RiscvAssembler.Proofs.Backpatching
import RiscvAssembler.Proofs.CompactForm
import RiscvAssembler.Proofs.CompactDecoding
import RiscvAssembler.Proofs.Decoding
import RiscvAssembler.Proofs.Expansion
import RiscvAssembler.Proofs.Selection
import RiscvAssembler.Proofs.Machine
import RiscvAssembler.Proofs.CompressedCall
import RiscvAssembler.Proofs.LoadConstant
import RiscvAssembler.Proofs.Compression
import RiscvAssembler.Proofs.Distance
import RiscvAssembler.Proofs.Placement
import RiscvAssembler.Proofs.Binding
import RiscvAssembler.Proofs.Emission
import RiscvAssembler.Proofs.Appending
import RiscvAssembler.Proofs.Pending
import RiscvAssembler.Proofs.InstructionLength
import RiscvAssembler.Proofs.Scan
import RiscvAssembler.Proofs.Regions
import RiscvAssembler.Proofs.Relocation
import RiscvAssembler.Proofs.CodePoints
import RiscvAssembler.Proofs.Nesting
import RiscvAssembler.Proofs.RoundTrip
import RiscvAssembler.Proofs.Layout
import RiscvAssembler.Proofs.Disassembly
import RiscvAssembler.Proofs.Probing
import RiscvAssembler.Proofs.FieldLaws
import RiscvAssembler.Proofs.DisplacementLaws
import RiscvAssembler.Proofs.Action
import RiscvAssembler.Proofs.Following
import RiscvAssembler.Proofs.PseudoInstruction
import RiscvAssembler.Proofs.ByteList
import RiscvAssembler.Proofs.VectorLength
import RiscvAssembler.Proofs.Transaction
import RiscvAssembler.Proofs.VectorSetting
import RiscvAssembler.Proofs.Environment
import RiscvAssembler.Proofs.ImmediateTests
