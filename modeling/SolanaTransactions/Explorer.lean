/-
Module: SolanaTransactions.Explorer
Purpose: Links into the block explorer.
Main exports: Explorer.transactionLink, Explorer.messageLink
-/
import SolanaTransactions.Text.Base64
import SolanaTransactions.Text.Percent
import SolanaTransactions.Transaction

namespace SolanaTransactions.Explorer

/-- The parameters that make the explorer ask a given endpoint. -/
def clusterParameters (endpoint : String) : String :=
  "cluster=custom&customUrl=" ++ Percent.encodeText endpoint

/-- The link to the transaction of a signature, which is given as text. -/
def transactionLink (signature endpoint : String) : String :=
  "https://explorer.solana.com/tx/" ++ signature ++ "?" ++ clusterParameters endpoint

/-- The link to the inspector with the message of a transaction. -/
def messageLink (transaction : Transaction) (endpoint : String) : String :=
  "https://explorer.solana.com/tx/inspector?message=" ++
    Percent.encodeText (Base64.encode transaction.message.toBytes) ++ "&" ++
    clusterParameters endpoint

end SolanaTransactions.Explorer
