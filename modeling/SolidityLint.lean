import SolidityLint.Main
import SolidityLint.Proofs.Command.Crash
import SolidityLint.Proofs.Command.DryRun
import SolidityLint.Proofs.Command.Repeat
import SolidityLint.Proofs.Diff.Rows
import SolidityLint.Proofs.Edit.OneByOne
import SolidityLint.Proofs.Edit.Overlap
import SolidityLint.Proofs.Files.DirectoryPattern
import SolidityLint.Proofs.Files.Nearest
import SolidityLint.Proofs.Files.Suffix
import SolidityLint.Proofs.Pass.Conflict
import SolidityLint.Proofs.Pass.Length
import SolidityLint.Proofs.Pass.Orderly
import SolidityLint.Proofs.Pass.Second
import SolidityLint.Proofs.Pass.Surplus
import SolidityLint.Proofs.Present.Protocol
import SolidityLint.Proofs.Present.Telling
import SolidityLint.Proofs.Repair.Failure
import SolidityLint.Proofs.Repair.Maximal
import SolidityLint.Proofs.Repair.Part
import SolidityLint.Proofs.Repair.Pool
import SolidityLint.Proofs.Repair.Resolvers
import SolidityLint.Proofs.Settings.Unusable
import SolidityLint.Proofs.Text.Offset
import SolidityLint.Proofs.Text.Tiling
