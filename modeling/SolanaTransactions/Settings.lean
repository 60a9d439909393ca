/-
Module: SolanaTransactions.Settings
Purpose: The settings of a client, as variables of the environment give them.
Main exports: Settings, SettingsFault, Settings.ofVariables, Settings.load, Settings.connection
-/
import SolanaTransactions.Decimal.Shortest
import SolanaTransactions.Limits
import SolanaTransactions.Rpc.Connection
import SolanaTransactions.Settings.Cluster
import SolanaTransactions.Settings.EnvFile
import SolanaTransactions.Submission

namespace SolanaTransactions

/-- The settings of a client. -/
structure Settings where
  cluster : Cluster
  endpoint : String
  /-- The endpoint of a connection when `endpoint` is empty. -/
  fallbackEndpoint : String
  commitment : Commitment
  /-- The seconds between two sends of a transaction. -/
  retryInterval : Double
  maxRetries : Int
  maxInstructions : Int
  skipPreflight : Bool
deriving DecidableEq, Inhabited, Repr

/-- Why variables give no settings. -/
inductive SettingsFault where
  /-- A file defines a variable that cannot exist. -/
  | unlawfulVariable
  /-- There is no cluster of this name. -/
  | unknownCluster (name : String)
  /-- The value of a variable is no number of its kind. -/
  | noNumber (name : String)
deriving DecidableEq, Inhabited, Repr

/-- The text of a fault, for the fault that this library words itself. -/
def SettingsFault.message? : SettingsFault → Option String
  | unknownCluster name =>
      some ("Unknown SOLPACK_ENV " ++ name ++ ", expected one of ['devnet', 'mainnet', 'localnet']")
  | _ => none

namespace Settings

/-- The words that switch something on, in lower case. -/
def affirmatives : List String := ["1", "true", "yes", "on"]

/-- Whether a value switches something on.  Case and surrounding blanks do not count; no letter
beyond ASCII is the upper case of a letter in these words. -/
def isAffirmative (value : String) : Bool :=
  affirmatives.contains (String.ofList ((trim value.toList).map Char.toLower))

/-- The value of a variable as a number of some kind, or a default when it is not set. -/
def readNumber {α : Type} (read? : List Char → Option α) (known : Variables) (name : String)
    (usual : α) : Except SettingsFault α :=
  match known.lookup name with
  | none => .ok usual
  | some text =>
      match read? text.toList with
      | some number => .ok number
      | none => .error (.noNumber name)

/-- The endpoint of a node that runs on the same machine. -/
def nodeOnThisMachine : String := "http://localhost:8899"

/-- The settings that variables give; what is not set has its default. -/
def ofVariables (known : Variables) : Except SettingsFault Settings := do
  let name := (known.lookup "SOLPACK_ENV").getD Cluster.devnet.name
  match Cluster.ofName? name with
  | none => .error (.unknownCluster name)
  | some cluster =>
      let interval ← readNumber Double.read? known "SOLPACK_RETRY_INTERVAL"
        (Double.ofMagnitude false defaultRetrySeconds)
      let retries ← readNumber Integer.read? known "SOLPACK_MAX_RETRIES" defaultMaxRetries
      let instructions ←
        readNumber Integer.read? known "SOLPACK_MAX_INSTRUCTION_COUNT" defaultMaxInstructions
      return {
        cluster := cluster
        endpoint := (known.lookup "SOLPACK_RPC_URL").getD cluster.http
        fallbackEndpoint := (known.lookup "SOLANARPC_HTTP_URI").getD nodeOnThisMachine
        commitment := (known.lookup "SOLPACK_COMMITMENT").getD Commitment.confirmed
        retryInterval := interval
        maxRetries := retries
        maxInstructions := instructions
        skipPreflight := isAffirmative ((known.lookup "SOLPACK_SKIP_PREFLIGHT").getD "false") }

/-- The settings that the environment gives together with the content of a file, when there is
one. -/
def load (environment : Variables) (file : Option String) : Except SettingsFault Settings :=
  match EnvFile.load? environment (file.getD "") with
  | some known => ofVariables known
  | none => .error .unlawfulVariable

/-- How an interval is written: powers of ten from `1e+16` on and below `0.0001`, with two digits at
least. -/
def intervalFormat : FloatFormat := ⟨-4, 16, 2⟩

/-- The interval between two sends as text. -/
def intervalText (settings : Settings) : String := settings.retryInterval.text intervalFormat

/-- The options that transactions are sent with. -/
def sendOptions (settings : Settings) : SendOptions :=
  { SendOptions.standard with
    skipPreflight := settings.skipPreflight
    preflightCommitment := settings.commitment }

/-- The options of a submission. -/
def submissionOptions (settings : Settings) : SubmissionOptions :=
  ⟨some settings.commitment, some settings.sendOptions⟩

/-- The connection to the endpoint of the settings. -/
def connection (settings : Settings) : Connection :=
  let endpoint := if settings.endpoint = "" then settings.fallbackEndpoint else settings.endpoint
  Connection.toEndpoint endpoint settings.commitment (some settings.sendOptions)

end Settings

end SolanaTransactions
