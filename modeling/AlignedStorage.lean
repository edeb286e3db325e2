import AlignedStorage.Address
import AlignedStorage.Console.Basic
import AlignedStorage.Main
import AlignedStorage.Proofs.Address.LowestBit
import AlignedStorage.Proofs.Address.Masks
import AlignedStorage.Proofs.Address.NaturalAlignment
import AlignedStorage.Proofs.Address.Nesting
import AlignedStorage.Proofs.Address.Rounding
import AlignedStorage.Proofs.Address.Run
import AlignedStorage.Proofs.Alignment.Agreement
import AlignedStorage.Proofs.Candidate.Grammar
import AlignedStorage.Proofs.Candidate.Refusal
import AlignedStorage.Proofs.Candidate.Union
import AlignedStorage.Proofs.CommandLine.Outcome
import AlignedStorage.Proofs.Console.Chunking
import AlignedStorage.Proofs.Console.Handover
import AlignedStorage.Proofs.Console.Holes
import AlignedStorage.Proofs.Console.Run
import AlignedStorage.Proofs.Layout.Assembly
import AlignedStorage.Proofs.Layout.LeastHolder
import AlignedStorage.Proofs.Layout.Padding
import AlignedStorage.Proofs.Layout.StorageSize
import AlignedStorage.Proofs.Report.SingleCandidate
import AlignedStorage.Proofs.Report.Storage
import AlignedStorage.Proofs.Report.TypeRow
import AlignedStorage.Proofs.Storage.ArrayType
import AlignedStorage.Proofs.Storage.LastStore
import AlignedStorage.Proofs.Storage.Placement
import AlignedStorage.Proofs.Storage.Row
import AlignedStorage.Proofs.Storage.Tenancy
import AlignedStorage.Proofs.Trait.Objects
import AlignedStorage.Proofs.Trait.Refusal
import AlignedStorage.Storage.Check
import AlignedStorage.TypeExpr.Parser
