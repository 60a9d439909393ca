/-
Module: SolanaTransactions.Outcome
Purpose: Taking the value or the error out of an outcome that is known to hold it.
Main exports: Outcome.isOk, Outcome.isErr, Outcome.unwrap, Outcome.unwrapErr, UnwrapFault
-/

namespace SolanaTransactions

/-- Why nothing can be taken out of an outcome. -/
inductive UnwrapFault where
  /-- A value was asked for, and there is an error, shown here. -/
  | holdsError (shown : String)
  /-- An error was asked for, and there is a value, shown here. -/
  | holdsValue (shown : String)
deriving DecidableEq, Inhabited, Repr

/-- The text of a fault. -/
def UnwrapFault.message : UnwrapFault → String
  | holdsError shown => "Called unwrap on an error result: " ++ shown
  | holdsValue shown => "Called unwrap_err on an ok result: " ++ shown

namespace Outcome

variable {ε α : Type}

/-- Whether an outcome holds a value. -/
def isOk : Except ε α → Bool
  | .ok _ => true
  | .error _ => false

/-- Whether an outcome holds an error. -/
def isErr (outcome : Except ε α) : Bool := !isOk outcome

/-- The value in an outcome. -/
def unwrap (display : ε → String) : Except ε α → Except UnwrapFault α
  | .ok value => .ok value
  | .error error => .error (.holdsError (display error))

/-- The error in an outcome. -/
def unwrapErr (display : α → String) : Except ε α → Except UnwrapFault ε
  | .ok value => .error (.holdsValue (display value))
  | .error error => .ok error

end Outcome

end SolanaTransactions
