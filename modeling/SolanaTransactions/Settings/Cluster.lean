/-
Module: SolanaTransactions.Settings.Cluster
Purpose: The clusters that a client can be set to.
Main exports: Cluster, Cluster.name, Cluster.http, Cluster.webSocket, Cluster.ofName?
-/

namespace SolanaTransactions

/-- A cluster with a public endpoint, or the one on this machine. -/
inductive Cluster where
  | devnet
  | mainnet
  | localnet
deriving DecidableEq, Inhabited, Repr

namespace Cluster

/-- All clusters, in the order in which they are listed. -/
def all : List Cluster := [devnet, mainnet, localnet]

/-- The name of a cluster. -/
def name : Cluster → String
  | devnet => "devnet"
  | mainnet => "mainnet"
  | localnet => "localnet"

/-- The endpoint for requests. -/
def http : Cluster → String
  | devnet => "https://api.devnet.solana.com"
  | mainnet => "https://api.mainnet-beta.solana.com"
  | localnet => "http://127.0.0.1:8899"

/-- The endpoint for subscriptions. -/
def webSocket : Cluster → String
  | devnet => "wss://api.devnet.solana.com"
  | mainnet => "wss://api.mainnet-beta.solana.com"
  | localnet => "ws://127.0.0.1:8900"

/-- The cluster of a name; case counts. -/
def ofName? (text : String) : Option Cluster := all.find? fun cluster => cluster.name == text

end Cluster

end SolanaTransactions
