/-
Module: SolanaTransactions.Proofs.Explorer
Purpose: What a reader of a link gets back from its query part.
Main exports:
  Query.ofLink, Query.fields, Query.fields_intercalate, Explorer.ofLink_messageLink,
  Explorer.fields_messageLink, Explorer.messageLink_reads_back
-/
import SolanaTransactions.Explorer
import SolanaTransactions.Proofs.Text.Base64
import SolanaTransactions.Proofs.Text.Joined
import SolanaTransactions.Proofs.Text.Percent

namespace SolanaTransactions

/-!
The query part of a link stands behind its first question mark and ends before a
number sign.  It is a list of fields with ampersands between them, and the name of
a field ends at its first equals sign.  A link says what was put into it as long as
no written value holds one of these signs, and percent-encoding writes none of them.
-/

namespace Query

/-- The query part of a link. -/
def ofLink (link : List Char) : List Char := (Text.cut '?' (Text.cut '#' link).1).2

/-- The names and the values of a query. -/
def fields (query : List Char) : List (List Char × List Char) :=
  (query.splitOn '&').map (Text.cut '=')

/-- A name and a value as one field. -/
def field (entry : List Char × List Char) : List Char := entry.1 ++ '=' :: entry.2

/-- Fields that are joined by ampersands are read back, when no name ends early and no field
does. -/
theorem fields_intercalate {entries : List (List Char × List Char)} (some : entries ≠ [])
    (whole : ∀ entry ∈ entries, '&' ∉ field entry) (named : ∀ entry ∈ entries, '=' ∉ entry.1) :
    fields (['&'].intercalate (entries.map field)) = entries := by
  have unbroken : ∀ piece ∈ entries.map field, '&' ∉ piece := List.forall_mem_map.2 whole
  rw [fields, List.splitOn_intercalate '&' unbroken (by simpa using some), List.map_map]
  refine (List.map_congr_left fun entry member => ?_).trans (List.map_id entries)
  exact Text.cut_append (named entry member) entry.2

/-- A query of three entries, written out behind what stands before it. -/
theorem intercalate_three (before name value second other third last : List Char) :
    before ++ '?' :: name ++ ['='] ++ value ++ ['&'] ++
        (second ++ '=' :: other ++ '&' :: third ++ ['='] ++ last) =
      before ++ '?' :: ['&'].intercalate
        ([(name, value), (second, other), (third, last)].map field) := by
  simp [field, List.intercalate_cons_cons]

end Query

namespace Explorer

variable {transaction other : Transaction} {endpoint elsewhere : String} {mark : Char}

/-- The address of the inspector. -/
def address : List Char := "https://explorer.solana.com/tx/inspector".toList

/-- What the link to a message holds: the written message, a fixed word and the written endpoint. -/
def entries (transaction : Transaction) (endpoint : String) : List (List Char × List Char) :=
  [("message".toList, (Percent.encodeText (Base64.encode transaction.message.toBytes)).toList),
    ("cluster".toList, "custom".toList),
    ("customUrl".toList, (Percent.encodeText endpoint).toList)]

/-- A link is the address of the inspector and the query of its entries. -/
theorem toList_messageLink (transaction : Transaction) (endpoint : String) :
    (messageLink transaction endpoint).toList =
      address ++ '?' :: ['&'].intercalate ((entries transaction endpoint).map Query.field) := by
  have opening : "https://explorer.solana.com/tx/inspector?message=".toList =
      address ++ '?' :: "message".toList ++ ['='] := by decide +kernel
  have middle : "cluster=custom&customUrl=".toList =
      "cluster".toList ++ '=' :: "custom".toList ++ '&' :: "customUrl".toList ++ ['='] := by
    decide +kernel
  have separator : "&".toList = ['&'] := by decide +kernel
  unfold messageLink clusterParameters
  simp only [String.toList_append]
  rw [opening, middle, separator]
  exact Query.intercalate_three _ _ _ _ _ _ _

/-- No sign of the query syntax is in a written text. -/
theorem notMem_encodeText (sign : mark ∈ ['&', '=', '?', '#']) (text : String) :
    mark ∉ (Percent.encodeText text).toList := by
  have each : ['&', '=', '?', '#'].all fun mark =>
      mark ≠ '%' ∧ Percent.isUnreserved (UInt8.ofNat mark.toNat) = false := by decide
  have reserved := of_decide_eq_true (List.all_eq_true.1 each mark sign)
  rw [Percent.encodeText, String.toList_ofList]
  exact Percent.notMem_encode reserved.1 reserved.2 _

/-- The equals sign behind its name is the only sign of the query syntax in a field. -/
theorem notMem_field (sign : mark ∈ ['&', '?', '#']) :
    ∀ entry ∈ entries transaction endpoint, mark ∉ Query.field entry := by
  have each : ['&', '?', '#'].all fun mark => mark ∈ ['&', '=', '?', '#'] ∧ mark ≠ '=' ∧
      mark ∉ "message".toList ∧ mark ∉ "cluster".toList ∧ mark ∉ "custom".toList ∧
      mark ∉ "customUrl".toList := by decide
  obtain ⟨reserved, notEquals, message, cluster, custom, url⟩ :=
    of_decide_eq_true (List.all_eq_true.1 each mark sign)
  have written := notMem_encodeText reserved
  simp only [entries, List.forall_mem_cons]
  simp only [Query.field, List.mem_append, List.mem_cons, not_or]
  exact ⟨⟨message, notEquals, written _⟩, ⟨cluster, notEquals, custom⟩,
    ⟨url, notEquals, written _⟩, nofun⟩

/-- The query part of a link is the query of its entries. -/
theorem ofLink_messageLink (transaction : Transaction) (endpoint : String) :
    Query.ofLink (messageLink transaction endpoint).toList =
      ['&'].intercalate ((entries transaction endpoint).map Query.field) := by
  have inQuery : ∀ character ∈ ['&'].intercalate ((entries transaction endpoint).map Query.field),
      character ≠ '#' := by
    refine Text.forall_mem_intercalate (by simp) (List.forall_mem_map.2 ?_)
    intro entry member character inside same
    exact notMem_field (by decide) entry member (same ▸ inside)
  have unmarked : '#' ∉ (messageLink transaction endpoint).toList := by
    rw [toList_messageLink, List.mem_append, List.mem_cons, not_or, not_or]
    exact ⟨by decide +kernel, by decide, fun member => inQuery _ member rfl⟩
  rw [Query.ofLink, Text.cut_of_notMem unmarked, toList_messageLink,
    Text.cut_append (by decide +kernel)]

/-- The query part of a link splits into its three entries, in order. -/
theorem fields_messageLink (transaction : Transaction) (endpoint : String) :
    Query.fields (Query.ofLink (messageLink transaction endpoint).toList) =
      entries transaction endpoint := by
  have named : ∀ entry ∈ entries transaction endpoint, '=' ∉ entry.1 := by
    simp only [entries, List.forall_mem_cons]
    exact ⟨by decide +kernel, by decide +kernel, by decide +kernel, nofun⟩
  rw [ofLink_messageLink]
  exact Query.fields_intercalate (List.cons_ne_nil _ _) (notMem_field (by decide)) named

/-- Links are the same when they hold the same message bytes and the same endpoint. -/
theorem messageLink_eq_iff :
    messageLink transaction endpoint = messageLink other elsewhere ↔
      transaction.message.toBytes = other.message.toBytes ∧ endpoint = elsewhere := by
  constructor
  · intro same
    have held : entries transaction endpoint = entries other elsewhere := by
      rw [← fields_messageLink, ← fields_messageLink, same]
    simp only [entries, List.cons.injEq, Prod.mk.injEq, true_and, and_true, String.toList_inj]
      at held
    have digits := Percent.encodeText_injective held.1
    refine ⟨?_, Percent.encodeText_injective held.2⟩
    have read := Base64.decode?_encode transaction.message.toBytes
    rw [digits, Base64.decode?_encode] at read
    exact (Option.some.inj read).symm
  · rintro ⟨bytes, rfl⟩
    unfold messageLink
    rw [bytes]

/-- The query part of a link splits into a message, the word `custom` and an endpoint, under their
names and in this order.  The message is read as the serialized message of the transaction, through
percent-encoding and base64, and the endpoint as the given text.  So a link tells both, and it does
not tell in which kind of transaction a legacy message stands. -/
theorem messageLink_reads_back :
    (∀ (transaction : Transaction) (endpoint : String), ∃ message customUrl,
      Query.fields (Query.ofLink (messageLink transaction endpoint).toList) =
          [("message".toList, message), ("cluster".toList, "custom".toList),
            ("customUrl".toList, customUrl)] ∧
        Percent.decodeText? message >>= Base64.decode? = some transaction.message.toBytes ∧
        Percent.decodeText? customUrl = some endpoint) ∧
    (∀ (transaction other : Transaction) (endpoint elsewhere : String),
      messageLink transaction endpoint = messageLink other elsewhere ↔
        transaction.message.toBytes = other.message.toBytes ∧ endpoint = elsewhere) ∧
    ∀ (body : MessageBody) (signatures others : List Signature) (endpoint : String),
      messageLink (.legacy body signatures) endpoint =
        messageLink (.versioned (.legacy body) others) endpoint := by
  refine ⟨fun transaction endpoint => ?_, fun _ _ _ _ => messageLink_eq_iff, ?_⟩
  · refine ⟨_, _, fields_messageLink transaction endpoint, ?_,
      Percent.decodeText?_encodeText endpoint⟩
    rw [Percent.decodeText?_encodeText]
    exact Base64.decode?_encode transaction.message.toBytes
  · intro body signatures others endpoint
    exact messageLink_eq_iff.2 ⟨rfl, rfl⟩

end Explorer

end SolanaTransactions
