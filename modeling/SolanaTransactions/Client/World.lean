/-
Module: SolanaTransactions.Client.World
Purpose: The state of a client with submissions in flight, and how time passes in it.
Main exports:
  Landing, Flight, Flight.next, World, World.tick, World.depart, World.advance, World.settle
-/
import SolanaTransactions.Client.Event
import SolanaTransactions.Time

namespace SolanaTransactions

/-!
A flight is a submission that goes on by itself.  At first its first send may be
under way.  Once this send is accepted the confirmation is awaited, and meanwhile
the same bytes are sent again after every interval.  A flight lands when its first
send has failed or when its confirmation has ended.  So it has one next step at
any time: it takes off, it sends again, or it lands.

Time is virtual.  It moves from one step to the next, always to the earliest one
of all flights.  Nobody has to wait for a flight: when an operation stops early,
its flights go on, and their later sends still happen.
-/

/-- How a flight ends.  The signature is blank when the first send was not accepted. -/
structure Landing where
  signature : Signature
  outcome : Except Fault Confirmation

/-- What a flight waits for. -/
inductive Flight.Phase where
  /-- The first send is under way until a time, and then there is its reply. -/
  | departing (ends : Rat) (reply : Except Fault Signature)
  /-- The confirmation is awaited until a time, and then the flight lands.  The next send has a time
  as well. -/
  | waiting (nextSend ends : Rat) (landing : Landing)

/-- A submission that goes on by itself. -/
structure Flight where
  /-- The number by which the flight is told from others. -/
  number : Nat
  /-- The bytes to send again. -/
  raw : Bytes
  /-- The options to send them with. -/
  options : SendOptions
  blockhash : RecentBlockhash
  /-- How deeply the transaction is to be buried. -/
  commitment : Commitment
  /-- The seconds between the end of one send and the start of the next. -/
  interval : Rat
  /-- How many more times the bytes may be sent. -/
  retries : Nat
  phase : Flight.Phase

namespace Flight

/-- The next step of a flight. -/
inductive Move where
  /-- The first send is accepted, and the wait for the confirmation begins. -/
  | takeOff (signature : Signature)
  | resend
  | land (landing : Landing)

/-- The next step of a flight. -/
def move (flight : Flight) : Move :=
  match flight.phase with
  | .departing _ (.ok signature) => .takeOff signature
  | .departing _ (.error fault) => .land ⟨Signature.blank, .error fault⟩
  | .waiting nextSend ends landing =>
      if 0 < flight.retries ∧ nextSend < ends then .resend else .land landing

/-- Whether the next step of a flight is to send again. -/
def resends (flight : Flight) : Bool :=
  match flight.move with
  | .resend => true
  | _ => false

/-- The time of the next step of a flight. -/
def due (flight : Flight) : Rat :=
  match flight.phase with
  | .departing ends _ => ends
  | .waiting nextSend ends _ => if flight.resends then nextSend else ends

/-- What others see of the next step of a flight. -/
def event (flight : Flight) : Event :=
  match flight.move with
  | .takeOff signature =>
      .confirming signature flight.commitment flight.blockhash.lastValidHeight
  | .resend => .sent flight.raw flight.options
  | .land landing => .settled landing.signature landing.outcome

/-- What follows for a flight when it takes off: the wait for the confirmation and the interval
before the next send begin. -/
def afterTakeOff (flight : Flight) (signature : Signature)
    (confirming : Timed (Except Fault Confirmation)) : Flight :=
  { flight with
    phase := .waiting (flight.due + elapsed flight.interval)
      (flight.due + elapsed confirming.seconds) ⟨signature, confirming.reply⟩ }

/-- What follows for a flight when it sends again: the time runs on and one try is used up. -/
def afterResend (flight : Flight) (seconds : Rat) : Flight :=
  { flight with
    retries := flight.retries - 1
    phase :=
      match flight.phase with
      | .departing ends reply => .departing ends reply
      | .waiting nextSend ends landing =>
          .waiting (nextSend + elapsed seconds + elapsed flight.interval) ends landing }

/-- What becomes of a flight in its next step: it lands, or it goes on. -/
def next {ε : Type} (network : Network ε) (flight : Flight) (environment : ε) :
    (Landing ⊕ Flight) × ε :=
  match flight.move with
  | .takeOff signature =>
      let (confirming, environment) :=
        network.confirm signature flight.blockhash flight.commitment environment
      (.inr (flight.afterTakeOff signature confirming), environment)
  | .resend =>
      let (sending, environment) := network.send flight.raw flight.options environment
      (.inr (flight.afterResend sending.seconds), environment)
  | .land landing => (.inl landing, environment)

/-- How many steps a flight can still take. -/
def weight (flight : Flight) : Nat :=
  match flight.phase with
  | .departing _ _ => flight.retries + 2
  | .waiting _ _ _ => flight.retries + 1

/-- How many steps several flights can still take. -/
def totalWeight : List Flight → Nat
  | [] => 0
  | flight :: rest => flight.weight + totalWeight rest

theorem totalWeight_append (left right : List Flight) :
    totalWeight (left ++ right) = totalWeight left + totalWeight right := by
  induction left with
  | nil => simp [totalWeight]
  | cons flight rest ih =>
      simp only [List.cons_append, totalWeight, ih]
      omega

theorem exists_of_move_takeOff {flight : Flight} {signature : Signature}
    (moves : flight.move = .takeOff signature) :
    ∃ ends, flight.phase = .departing ends (.ok signature) := by
  unfold move at moves
  split at moves
  · next ends _ phase =>
      obtain rfl := Move.takeOff.inj moves
      exact ⟨ends, phase⟩
  · contradiction
  · split at moves
    · contradiction
    · contradiction

theorem exists_of_move_resend {flight : Flight} (moves : flight.move = .resend) :
    ∃ nextSend ends landing, flight.phase = .waiting nextSend ends landing ∧
      0 < flight.retries ∧ nextSend < ends := by
  unfold move at moves
  split at moves
  · contradiction
  · contradiction
  · next nextSend ends landing phase =>
      split at moves
      · next inTime => exact ⟨nextSend, ends, landing, phase, inTime⟩
      · contradiction

/-- A flight that goes on has fewer steps left. -/
theorem weight_next {ε : Type} {network : Network ε} {flight later : Flight} {environment : ε}
    (goesOn : (flight.next network environment).1 = .inr later) : later.weight < flight.weight := by
  unfold next at goesOn
  split at goesOn
  · next signature moves =>
      obtain ⟨ends, phase⟩ := exists_of_move_takeOff moves
      obtain rfl := Sum.inr.inj goesOn
      simp only [weight, afterTakeOff, phase]
      omega
  · next moves =>
      obtain ⟨nextSend, ends, landing, phase, more, _⟩ := exists_of_move_resend moves
      obtain rfl := Sum.inr.inj goesOn
      simp only [weight, afterResend, phase]
      omega
  · contradiction

end Flight

/-- The state of a client. -/
structure World (ε : Type) where
  /-- The state of the network and of the signers. -/
  environment : ε
  /-- The time in seconds. -/
  now : Rat
  /-- Everything that has happened, in order. -/
  trace : List TraceEntry
  /-- The submissions in flight. -/
  flights : List Flight
  /-- The numbers of the flights that have ended and how they have, in the order of their ends. -/
  landed : List (Nat × Landing)
  /-- The number of the next flight. -/
  nextNumber : Nat

namespace World

variable {ε : Type}

/-- The state at the beginning of time. -/
def start (environment : ε) : World ε := ⟨environment, 0, [], [], [], 0⟩

/-- A state in which one more event has happened at the present time. -/
def record (world : World ε) (event : Event) : World ε :=
  { world with trace := world.trace ++ [⟨world.now, event⟩] }

/-- How many steps all flights can still take. -/
def weight (world : World ε) : Nat := Flight.totalWeight world.flights

/-- The first of the flights that are due earliest, and the other ones in their order. -/
def takeEarliest : List Flight → Option (Flight × List Flight)
  | [] => none
  | flight :: rest =>
      match takeEarliest rest with
      | none => some (flight, rest)
      | some (earliest, others) =>
          if earliest.due < flight.due then some (earliest, flight :: others)
          else some (flight, rest)

/-- The next step of a flight, which others stand beside. -/
def tick (network : Network ε) (world : World ε) (flight : Flight) (others : List Flight) :
    World ε :=
  let world := { world with now := later world.now flight.due }.record flight.event
  let (becomes, environment) := flight.next network world.environment
  match becomes with
  | .inl landing =>
      { world with
        environment := environment
        flights := others
        landed := world.landed ++ [(flight.number, landing)] }
  | .inr goesOn => { world with environment := environment, flights := others ++ [goesOn] }

/-- A flight begins.  When its next step is already due, it is taken at once. -/
def depart (network : Network ε) (world : World ε) (flight : Flight) : World ε :=
  let world := { world with nextNumber := world.nextNumber + 1 }
  if flight.due ≤ world.now then world.tick network flight world.flights
  else { world with flights := world.flights ++ [flight] }

theorem takeEarliest_weight {flights others : List Flight} {earliest : Flight}
    (taken : takeEarliest flights = some (earliest, others)) :
    earliest.weight + Flight.totalWeight others = Flight.totalWeight flights := by
  induction flights generalizing earliest others with
  | nil => simp [takeEarliest] at taken
  | cons flight rest ih =>
      simp only [takeEarliest] at taken
      split at taken
      · simp only [Option.some.injEq, Prod.mk.injEq] at taken
        obtain ⟨rfl, rfl⟩ := taken
        rfl
      · next inner =>
          split at taken
          · simp only [Option.some.injEq, Prod.mk.injEq] at taken
            obtain ⟨rfl, rfl⟩ := taken
            have fewer := ih inner
            simp only [Flight.totalWeight]
            omega
          · simp only [Option.some.injEq, Prod.mk.injEq] at taken
            obtain ⟨rfl, rfl⟩ := taken
            rfl

theorem tick_weight (network : Network ε) (world : World ε) {flight : Flight}
    {others : List Flight} (taken : takeEarliest world.flights = some (flight, others)) :
    (world.tick network flight others).weight < world.weight := by
  have total := takeEarliest_weight taken
  simp only [weight, tick]
  split
  · have positive : 0 < flight.weight := by
      unfold Flight.weight
      split
      · omega
      · omega
    show Flight.totalWeight others < _
    omega
  · next later becomes =>
      have fewer := Flight.weight_next becomes
      show Flight.totalWeight (others ++ [later]) < _
      rw [Flight.totalWeight_append]
      simp only [Flight.totalWeight]
      omega

/-- Let time pass up to a given time, with all steps that are due before it. -/
def advance (network : Network ε) (target : Rat) (world : World ε) : World ε :=
  match taken : takeEarliest world.flights with
  | none => { world with now := later world.now target }
  | some (flight, others) =>
      have := tick_weight network world taken
      if flight.due < target then advance network target (world.tick network flight others)
      else { world with now := later world.now target }
termination_by world.weight
decreasing_by assumption

/-- The first fault with which a flight of a list has landed. -/
def faultAmong (awaited : List Nat) (world : World ε) : Option Fault :=
  world.landed.findSome? fun (number, landing) =>
    match landing.outcome with
    | .error fault => if awaited.contains number then some fault else none
    | .ok _ => none

/-- Let time pass until every flight of a list has landed or one of them has failed. -/
def settle (network : Network ε) (awaited : List Nat) (world : World ε) : World ε :=
  if (world.faultAmong awaited).isNone &&
      world.flights.any fun flight => awaited.contains flight.number then
    match taken : takeEarliest world.flights with
    | none => world
    | some (flight, others) =>
        have := tick_weight network world taken
        settle network awaited (world.tick network flight others)
  else world
termination_by world.weight
decreasing_by assumption

/-- How a flight has landed. -/
def landing? (world : World ε) (number : Nat) : Option Landing := world.landed.lookup number

end World

end SolanaTransactions
