import ToolPack.Main
import ToolPack.Storage.Fault
import ToolPack.Storage.Memory
import ToolPack.Zip.Reader
import ToolPack.Proofs.Storage.Exchange
import ToolPack.Proofs.Storage.Ensures
import ToolPack.Proofs.Storage.Evaluation
import ToolPack.Proofs.Storage.FirstFault
import ToolPack.Proofs.Storage.Contents
import ToolPack.Proofs.Storage.Agreement
import ToolPack.Proofs.Storage.Copies
import ToolPack.Proofs.Storage.SourceKept
import ToolPack.Proofs.Text.Pieces
import ToolPack.Proofs.Version
import ToolPack.Proofs.Manifest.Accepted
import ToolPack.Proofs.Path
import ToolPack.Proofs.Zip.Unpack
import ToolPack.Proofs.Zip.CodeLimit
import ToolPack.Proofs.Zip.Decode
import ToolPack.Proofs.Zip.Size
import ToolPack.Proofs.Package.Loops
import ToolPack.Proofs.Package.Course
import ToolPack.Proofs.Package.FailFast
import ToolPack.Proofs.Package.Success
import ToolPack.Proofs.Package.Sequence
import ToolPack.Proofs.Package.Sample
import ToolPack.Proofs.Package.Replay
import ToolPack.Proofs.Package.Intact
import ToolPack.Proofs.Package.Fidelity
import ToolPack.Proofs.Package.FailStop
import ToolPack.Proofs.Package.Frame
import ToolPack.Proofs.Package.Apart
import ToolPack.Proofs.Package.Archivable
import ToolPack.Proofs.Package.Bundle
import ToolPack.Proofs.Package.Headers
import ToolPack.Proofs.Package.Inside
import ToolPack.Proofs.Package.ExitStatus
import ToolPack.Proofs.Package.LongDescription
import ToolPack.Proofs.Package.FirstProblem
import ToolPack.Proofs.Package.Staging
import ToolPack.Proofs.Package.Decoding
import ToolPack.Proofs.Package.RecordLines
import ToolPack.Proofs.Manifest.References
import ToolPack.Proofs.Manifest.OpenReferences
import ToolPack.Proofs.Version.Grammar
import ToolPack.Proofs.Package.AllOrNothing
import ToolPack.Proofs.Manifest.Moved
import ToolPack.Proofs.Manifest.Overrides
import ToolPack.Proofs.Manifest.Names
import ToolPack.Proofs.Manifest.FirstOffender
import ToolPack.Proofs.Path.Spelling
import ToolPack.Proofs.Package.Lacking
import ToolPack.Proofs.Package.ScriptList
import ToolPack.Proofs.Package.RecordParts
import ToolPack.Proofs.Package.Releases
import ToolPack.Proofs.Package.Requirements
import ToolPack.Proofs.Version.Public
import ToolPack.Proofs.Package.NulFree
import ToolPack.Proofs.Package.DryRun
