/-
Module: SolanaTransactions.ComputeBudget
Purpose: The instructions that set the compute budget of a transaction.
Main exports:
  ComputeBudget.program, ComputeBudget.limitInstruction, ComputeBudget.priceInstruction,
  ComputeBudget.instructions, ComputeBudget.placeholders
-/
import SolanaTransactions.Fault
import SolanaTransactions.Limits

namespace SolanaTransactions.ComputeBudget

/-- The compute budget program, `ComputeBudget111111111111111111111111111111`. -/
def program : Key :=
  Key.ofNat 0x0306466fe5211732ffecadba72c39be7bc8ce5bbc5f7126b2c439b3a40000000

/-- The instruction that limits the compute units of a transaction. -/
def limitInstruction (units : Nat) : Instruction :=
  ⟨program, [], 2 :: Bytes.littleEndian 4 units⟩

/-- The instruction that sets the price of a compute unit in micro-lamports. -/
def priceInstruction (microLamports : Nat) : Instruction :=
  ⟨program, [], 3 :: Bytes.littleEndian 8 microLamports⟩

/-- An amount below a limit; an absent amount and zero both mean none. -/
def amountBelow (limit : Int) : Option Int → Except Fault (Option Nat)
  | none => .ok none
  | some amount =>
      if amount = 0 then .ok none
      else if amount < 0 ∨ limit ≤ amount then .error (.budgetOutOfRange amount)
      else .ok (some amount.toNat)

/-- The budget instructions for a limit and a price, each left out when absent or zero. -/
def instructions (units microLamports : Option Int) : Except Fault (List Instruction) := do
  let limit ← amountBelow halfWordLimit units
  let price ← amountBelow wordLimit microLamports
  return (limit.map limitInstruction).toList ++ (price.map priceInstruction).toList

/-- Budget instructions that hold the place of the real ones while a batch is packed; they are as
large as any real ones. -/
def placeholders : List Instruction := [priceInstruction 426, limitInstruction 1400000]

end SolanaTransactions.ComputeBudget
