import SolanaTransactions.Bytes
import SolanaTransactions.Client
import SolanaTransactions.Client.Event
import SolanaTransactions.Client.World
import SolanaTransactions.ComputeBudget
import SolanaTransactions.ComputeBudget.Priority
import SolanaTransactions.ComputeBudget.RecentFee
import SolanaTransactions.Crypto.Ed25519
import SolanaTransactions.Crypto.Sha2
import SolanaTransactions.Decimal.Double
import SolanaTransactions.Decimal.Shortest
import SolanaTransactions.Explorer
import SolanaTransactions.Fault
import SolanaTransactions.Instruction
import SolanaTransactions.Key
import SolanaTransactions.KeySet
import SolanaTransactions.Keypair.Folder
import SolanaTransactions.Keypair.Notation
import SolanaTransactions.Limits
import SolanaTransactions.LookupTable
import SolanaTransactions.LookupTable.Maintenance
import SolanaTransactions.LookupTable.Program
import SolanaTransactions.Message
import SolanaTransactions.Message.Accounts
import SolanaTransactions.Message.CompactCount
import SolanaTransactions.Message.Compile
import SolanaTransactions.Message.Wire
import SolanaTransactions.Network
import SolanaTransactions.Numeral
import SolanaTransactions.Outcome
import SolanaTransactions.Packing.Dynamic
import SolanaTransactions.Packing.Error
import SolanaTransactions.Packing.Packer
import SolanaTransactions.ProgramAddress
import SolanaTransactions.Proofs.Client.Course
import SolanaTransactions.Proofs.Client.Flight
import SolanaTransactions.Proofs.Client.Moves
import SolanaTransactions.Proofs.Client.Passage
import SolanaTransactions.Proofs.Client.Run
import SolanaTransactions.Proofs.Client.Settling
import SolanaTransactions.Proofs.Client.Trace
import SolanaTransactions.Proofs.ComputeBudget.RecentFee
import SolanaTransactions.Proofs.ComputeBudget.Swap
import SolanaTransactions.Proofs.ComputeBudget.Values
import SolanaTransactions.Proofs.Explorer
import SolanaTransactions.Proofs.KeySet
import SolanaTransactions.Proofs.Keypair.Folder
import SolanaTransactions.Proofs.Keypair.Notation
import SolanaTransactions.Proofs.LookupTable.AccountData
import SolanaTransactions.Proofs.LookupTable.Covering
import SolanaTransactions.Proofs.LookupTable.Creation
import SolanaTransactions.Proofs.LookupTable.NewSlot
import SolanaTransactions.Proofs.LookupTable.Outliving
import SolanaTransactions.Proofs.Message.Compiled
import SolanaTransactions.Proofs.Message.Listing
import SolanaTransactions.Proofs.Message.ReadBack
import SolanaTransactions.Proofs.Message.Roles
import SolanaTransactions.Proofs.Message.TableLoading
import SolanaTransactions.Proofs.Message.WireLength
import SolanaTransactions.Proofs.Message.WriteLocks
import SolanaTransactions.Proofs.Packing.Filling
import SolanaTransactions.Proofs.Packing.Optimality
import SolanaTransactions.Proofs.Packing.Partition
import SolanaTransactions.Proofs.Packing.Refusal
import SolanaTransactions.Proofs.Packing.Resumption
import SolanaTransactions.Proofs.Packing.Single
import SolanaTransactions.Proofs.Packing.Validity
import SolanaTransactions.Proofs.Signing.AnyOrder
import SolanaTransactions.Proofs.Signing.Building
import SolanaTransactions.Proofs.Signing.Completeness
import SolanaTransactions.Proofs.Signing.OneSlot
import SolanaTransactions.Proofs.Signing.Refilling
import SolanaTransactions.Proofs.Signing.Required
import SolanaTransactions.Proofs.Signing.Roster
import SolanaTransactions.Proofs.Signing.Round
import SolanaTransactions.Proofs.Signing.Slots
import SolanaTransactions.Proofs.Signing.Soundness
import SolanaTransactions.Proofs.Sizing.ApartTables
import SolanaTransactions.Proofs.Sizing.CompactLength
import SolanaTransactions.Proofs.Sizing.Estimate
import SolanaTransactions.Proofs.Sizing.GreedyRule
import SolanaTransactions.Proofs.Sizing.GreedySearch
import SolanaTransactions.Proofs.Sizing.TableSearch
import SolanaTransactions.Proofs.Sizing.WireAgreement
import SolanaTransactions.Proofs.Sizing.Within
import SolanaTransactions.Proofs.Submission.Chronicle
import SolanaTransactions.Proofs.Submission.Guard
import SolanaTransactions.Proofs.Submission.Landing
import SolanaTransactions.Proofs.Submission.Launching
import SolanaTransactions.Proofs.Submission.Resending
import SolanaTransactions.Proofs.Submission.SideBySide
import SolanaTransactions.Proofs.Text.Base58
import SolanaTransactions.Proofs.Text.Base64
import SolanaTransactions.Proofs.Text.Joined
import SolanaTransactions.Proofs.Text.Json.LineEnds
import SolanaTransactions.Proofs.Text.Json.Reader
import SolanaTransactions.Proofs.Text.LineEnds
import SolanaTransactions.Proofs.Text.Percent
import SolanaTransactions.Proofs.Text.SpacedNumber
import SolanaTransactions.Proofs.Traversal
import SolanaTransactions.Rehearsal.Conduct
import SolanaTransactions.Rehearsal.Script
import SolanaTransactions.Rpc.Account
import SolanaTransactions.Rpc.Connection
import SolanaTransactions.Rpc.Exchange
import SolanaTransactions.Rpc.NodeError
import SolanaTransactions.Rpc.Results
import SolanaTransactions.Rpc.Simulated
import SolanaTransactions.Rpc.TransactionError
import SolanaTransactions.Sequence
import SolanaTransactions.Settings
import SolanaTransactions.Settings.Cluster
import SolanaTransactions.Settings.EnvFile
import SolanaTransactions.SignatureScheme
import SolanaTransactions.Signing.Coordinator
import SolanaTransactions.Signing.Signer
import SolanaTransactions.Sizing.Estimate
import SolanaTransactions.Sizing.TableSearch
import SolanaTransactions.Submission
import SolanaTransactions.SystemProgram
import SolanaTransactions.SystemProgram.Transfer
import SolanaTransactions.Text.Base58
import SolanaTransactions.Text.Base64
import SolanaTransactions.Text.Blank
import SolanaTransactions.Text.DecimalDigit
import SolanaTransactions.Text.Hidden
import SolanaTransactions.Text.Json
import SolanaTransactions.Text.Json.Reader
import SolanaTransactions.Text.Json.Record
import SolanaTransactions.Text.Json.Writer
import SolanaTransactions.Text.Percent
import SolanaTransactions.Time
import SolanaTransactions.Transaction
import SolanaTransactions.Transaction.Summary
import SolanaTransactions.Zstandard.Bits
import SolanaTransactions.Zstandard.Block
import SolanaTransactions.Zstandard.Checksum
import SolanaTransactions.Zstandard.Copies
import SolanaTransactions.Zstandard.Frame
import SolanaTransactions.Zstandard.PrefixCode
import SolanaTransactions.Zstandard.StateTable
