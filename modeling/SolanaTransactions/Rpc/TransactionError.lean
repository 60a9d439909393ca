/-
Module: SolanaTransactions.Rpc.TransactionError
Purpose: The errors with which transactions fail on the chain.
Main exports: InstructionError, TransactionError, TransactionError.ofJson?, TransactionError.toJson
-/
import SolanaTransactions.Text.Json.Record

namespace SolanaTransactions

/-- Why an instruction fails. -/
inductive InstructionError where
  /-- A cause with a name. -/
  | named (name : String)
  /-- A cause with a number that only its program understands. -/
  | custom (code : Nat)
  /-- Data could not be written or read, as a text explains. -/
  | data (explanation : String)
deriving DecidableEq, Inhabited, Repr

/-- Why a transaction fails. -/
inductive TransactionError where
  /-- A cause with a name. -/
  | named (name : String)
  /-- An instruction fails. -/
  | instruction (position : Nat) (cause : InstructionError)
  /-- An instruction that may stand once stands there twice. -/
  | duplicate (position : Nat)
  /-- A cause with a name that concerns one account. -/
  | account (name : String) (position : Nat)
deriving DecidableEq, Inhabited, Repr

namespace InstructionError

/-- The causes that are nothing but a name. -/
def names : List String :=
  ["GenericError", "InvalidArgument", "InvalidInstructionData", "InvalidAccountData",
   "AccountDataTooSmall", "InsufficientFunds", "IncorrectProgramId", "MissingRequiredSignature",
   "AccountAlreadyInitialized", "UninitializedAccount", "UnbalancedInstruction",
   "ModifiedProgramId", "ExternalAccountLamportSpend", "ExternalAccountDataModified",
   "ReadonlyLamportChange", "ReadonlyDataModified", "DuplicateAccountIndex",
   "ExecutableModified", "RentEpochModified", "NotEnoughAccountKeys",
   "AccountDataSizeChanged", "AccountNotExecutable", "AccountBorrowFailed",
   "AccountBorrowOutstanding", "DuplicateAccountOutOfSync", "InvalidError",
   "ExecutableDataModified", "ExecutableLamportChange", "ExecutableAccountNotRentExempt",
   "UnsupportedProgramId", "CallDepth", "MissingAccount", "ReentrancyNotAllowed",
   "MaxSeedLengthExceeded", "InvalidSeeds", "InvalidRealloc", "ComputationalBudgetExceeded",
   "PrivilegeEscalation", "ProgramEnvironmentSetupFailure", "ProgramFailedToComplete",
   "ProgramFailedToCompile", "Immutable", "IncorrectAuthority", "AccountNotRentExempt",
   "InvalidAccountOwner", "ArithmeticOverflow", "UnsupportedSysvar", "IllegalOwner",
   "MaxAccountsDataAllocationsExceeded", "MaxAccountsExceeded",
   "MaxInstructionTraceLengthExceeded", "BuiltinProgramsMustConsumeComputeUnits"]

/-- The cause that a value of a reply stands for. -/
def ofJson? (value : JsonValue) : Option InstructionError :=
  match value.alternative? with
  | some ("Custom", some code) => code.nat32?.map custom
  | some ("BorshIoError", some explanation) => explanation.string?.map data
  | _ => do
      let name ← value.plainAlternative?
      if names.contains name then some (named name) else none

/-- The value that stands for a cause in a reply. -/
def toJson : InstructionError → JsonValue
  | named name => .string name
  | custom code => .object [("Custom", .integer code)]
  | data explanation => .object [("BorshIoError", .string explanation)]

end InstructionError

namespace TransactionError

/-- The causes that are nothing but a name. -/
def names : List String :=
  ["AccountInUse", "AccountLoadedTwice", "AccountNotFound", "ProgramAccountNotFound",
   "InsufficientFundsForFee", "InvalidAccountForFee", "AlreadyProcessed", "BlockhashNotFound",
   "CallChainTooDeep", "MissingSignatureForFee", "InvalidAccountIndex", "SignatureFailure",
   "InvalidProgramForExecution", "SanitizeFailure", "ClusterMaintenance",
   "AccountBorrowOutstanding", "WouldExceedMaxBlockCostLimit", "UnsupportedVersion",
   "InvalidWritableAccount", "WouldExceedMaxAccountCostLimit",
   "WouldExceedAccountDataBlockLimit", "TooManyAccountLocks", "AddressLookupTableNotFound",
   "InvalidAddressLookupTableOwner", "InvalidAddressLookupTableData",
   "InvalidAddressLookupTableIndex", "InvalidRentPayingAccount",
   "WouldExceedMaxVoteCostLimit", "WouldExceedAccountDataTotalLimit",
   "MaxLoadedAccountsDataSizeExceeded", "InvalidLoadedAccountsDataSizeLimit",
   "ResanitizationNeeded", "UnbalancedTransaction", "ProgramCacheHitMaxLimit",
   "CommitCancelled"]

/-- The causes that concern one account. -/
def accountNames : List String :=
  ["InsufficientFundsForRent", "ProgramExecutionTemporarilyRestricted"]

/-- The position of the account that an error concerns. -/
def readAccountPosition? (value : JsonValue) : Option Nat := do
  let parts ← value.record? ["account_index"] 1
  parts.required? JsonValue.nat8? "account_index"

/-- The error that a value of a reply stands for. -/
def ofJson? (value : JsonValue) : Option TransactionError :=
  match value.alternative? with
  | some ("InstructionError", some failure) => do
      let (position, cause) ← failure.pair? JsonValue.nat8? InstructionError.ofJson?
      some (instruction position cause)
  | some ("DuplicateInstruction", some position) => position.nat8?.map duplicate
  | _ =>
      match value.plainAlternative? with
      | some name => if names.contains name then some (named name) else none
      | none => do
          let (name, content) ← value.alternative?
          let position ← readAccountPosition? (← content)
          if accountNames.contains name then some (account name position) else none

/-- The value that stands for an error in a reply. -/
def toJson : TransactionError → JsonValue
  | named name => .string name
  | instruction position cause =>
      .object [("InstructionError", .array [.integer position, cause.toJson])]
  | duplicate position => .object [("DuplicateInstruction", .integer position)]
  | account name position => .object [(name, .object [("account_index", .integer position)])]

end TransactionError

end SolanaTransactions
