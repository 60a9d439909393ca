/-
Module: SolanaTransactions.Packing.Error
Purpose: The reasons for which instructions cannot be packed.
Main exports: PackingErrorKind, PackingError, PackingError.message
-/
import SolanaTransactions.Key

namespace SolanaTransactions

/-- The four ways in which packing fails. -/
inductive PackingErrorKind where
  | scaffoldingTooLarge
  | scaffoldingTooManyKeys
  | instructionTooLarge
  | instructionTooManyKeys
deriving DecidableEq, Inhabited, Repr

/-- The name under which a kind is reported. -/
def PackingErrorKind.name : PackingErrorKind → String
  | scaffoldingTooLarge => "ScaffoldingTooLarge"
  | scaffoldingTooManyKeys => "ScaffoldingTooManyKeys"
  | instructionTooLarge => "InstructionTooLarge"
  | instructionTooManyKeys => "InstructionTooManyKeys"

/-- All kinds in the order of their declaration. -/
def PackingErrorKind.all : List PackingErrorKind :=
  [scaffoldingTooLarge, scaffoldingTooManyKeys, instructionTooLarge, instructionTooManyKeys]

/-- The kind with a given name. -/
def PackingErrorKind.ofName? (name : String) : Option PackingErrorKind :=
  all.find? fun kind => kind.name == name

/-- Whether a kind is the one of a given name; case and spelling count. -/
def PackingErrorKind.isNamed (kind : PackingErrorKind) (name : String) : Bool := name == kind.name

/-- The text of a kind inside a message. -/
def PackingErrorKind.text (kind : PackingErrorKind) : String :=
  "PackingErrorKind." ++ kind.name ++ "()"

/-- Why instructions cannot be packed. -/
inductive PackingError where
  /-- The instructions around every batch refer to too many accounts on their own. -/
  | crowdedScaffolding
  /-- The instructions around every batch are too large on their own. -/
  | largeScaffolding
  /-- The instructions around every batch leave no room for another one under the limit. -/
  | fullScaffolding (limit : Int)
  /-- An instruction of this program refers to too many accounts even alone in a batch. -/
  | crowdedInstruction (program : Key)
  /-- An instruction of this program is too large even alone in a batch. -/
  | largeInstruction (program : Key)
deriving DecidableEq, Inhabited, Repr

namespace PackingError

/-- The kind of failure that an error is reported as. -/
def kind : PackingError → PackingErrorKind
  | crowdedScaffolding => .scaffoldingTooManyKeys
  | largeScaffolding => .scaffoldingTooLarge
  | fullScaffolding _ => .scaffoldingTooLarge
  | crowdedInstruction _ => .instructionTooManyKeys
  | largeInstruction _ => .instructionTooLarge

/-- The program of the instruction at fault, when a single one is. -/
def program? : PackingError → Option Key
  | crowdedInstruction program => some program
  | largeInstruction program => some program
  | _ => none

/-- The text of an error. -/
def message : PackingError → String
  | crowdedScaffolding =>
      "Before and after instructions alone have too many unique keys to fit in transaction"
  | largeScaffolding => "Before and after instructions alone are too big to fit in transaction"
  | fullScaffolding limit =>
      "Before and after instructions leave no room under the limit of " ++ toString limit ++
        " instructions"
  | crowdedInstruction program =>
      "Instruction has too many unique accounts to fit in transaction: " ++ program.text
  | largeInstruction program => "Instruction too large to fit in transaction: " ++ program.text

end PackingError

end SolanaTransactions
