import RuleEngine.Session
import RuleEngine.Value.Text

/-!
# The world

Sessions, streams, collectors and processors are shared: a stream may feed several sessions, and
actions publish to streams while they run.  The world holds all of them, each under its number, and
gives out the numbers of fact instances.

Anything can subscribe to a stream.  Collectors, other streams and sessions are there for everybody to
use; a processor stands for whatever else a program subscribes.
-/

namespace RuleEngine

/-- The number of a session. -/
structure SessionId where
  index : Nat
deriving DecidableEq

/-- The number of a collector. -/
structure CollectorId where
  index : Nat
deriving DecidableEq

/-- The number of a processor. -/
structure ProcessorId where
  index : Nat
deriving DecidableEq

/-- Where the values of a stream go. -/
inductive Subscriber where
  /-- Into a collector. -/
  | collect (id : CollectorId)
  /-- Into another stream. -/
  | forward (id : SourceId)
  /-- Into a session, through a partition. -/
  | enter (id : SessionId) (partition : Nat)
  /-- Into a processor. -/
  | process (id : ProcessorId)

/-- A stream: the values published so far and the subscribers, in the order of subscription. -/
structure Stream where
  values : List Value
  subscribers : List Subscriber

/-- A collector keeps what it gets until it is full, and refuses the rest with a message. -/
structure Collector where
  limit : Option Nat
  message : String
  taken : List Value

namespace Collector

def isFull (c : Collector) : Bool :=
  c.limit.any (· ≤ c.taken.length)

/-- How many more values a collector with a limit takes. -/
def room (c : Collector) : Nat :=
  match c.limit with
  | some limit => limit - c.taken.length
  | none => 0

end Collector

/-- What a processor does with a value that it is handed: it publishes values of its own, one after the
other and whatever comes of each, and then it takes the value, or refuses it with an error. -/
structure Reaction where
  publishes : List (SourceId × Value)
  refusal : Option Error

/-- A subscriber of any other kind, with the values that it has been handed.  All that it does to the
world is to publish; how it makes up its mind is its own affair.  In a run that comes to an end it was
handed finitely many values, and what it did with each of them is a list of reactions; so whatever holds
for all lists of reactions holds for all programs of this kind.  Past the end of its list a processor
takes what it is handed and publishes nothing.

A value that a processor puts into a session goes through a stream of its own that feeds the session.  A
processor that subscribes, or that updates or retracts what a session holds, is not among these. -/
structure Processor where
  reactions : List Reaction
  handed : List Value

namespace Processor

/-- What the processor does with the next value. -/
def next (p : Processor) : Reaction :=
  (p.reactions[p.handed.length]?).getD ⟨[], none⟩

/-- How many of its reactions are still to come. -/
def pending (p : Processor) : Nat :=
  p.reactions.length - p.handed.length

end Processor

/-- All shared things, and the number of the next fact instance. -/
structure World where
  sessions : List Session
  streams : List Stream
  collectors : List Collector
  processors : List Processor
  nextInstance : Nat

namespace World

def empty : World :=
  ⟨[], [], [], [], 0⟩

instance : Inhabited World := ⟨empty⟩

/-! ## Facts -/

/-- A new fact instance; the last value under a field name counts. -/
def newFact (w : World) (typeName : String) (fields : List (String × Value)) : Value × World :=
  (.fact ⟨w.nextInstance⟩ typeName (fields.foldl (fun fs e => Entries.put e.1 e.2 fs) []),
    { w with nextInstance := w.nextInstance + 1 })

/-! ## Streams -/

/-- The stream of a number; streams that were never opened are empty. -/
def stream (w : World) (id : SourceId) : Stream :=
  (w.streams[id.index]?).getD ⟨[], []⟩

def tally (w : World) (id : SourceId) : Tally :=
  ⟨(w.stream id).values.length, (w.stream id).subscribers.length⟩

def openStream (w : World) : SourceId × World :=
  (⟨w.streams.length⟩, { w with streams := w.streams ++ [⟨[], []⟩] })

def modifyStream (w : World) (id : SourceId) (f : Stream → Stream) : World :=
  { w with streams := w.streams.modify id.index f }

/-! ## Collectors -/

def collector? (w : World) (id : CollectorId) : Option Collector :=
  w.collectors[id.index]?

def openCollector (w : World) (limit : Option Nat) (message : String) : CollectorId × World :=
  (⟨w.collectors.length⟩, { w with collectors := w.collectors ++ [⟨limit, message, []⟩] })

/-! ## Processors -/

/-- The processor of a number; what was never opened has no reactions. -/
def processor (w : World) (id : ProcessorId) : Processor :=
  (w.processors[id.index]?).getD ⟨[], []⟩

def openProcessor (w : World) (reactions : List Reaction) : ProcessorId × World :=
  (⟨w.processors.length⟩, { w with processors := w.processors ++ [⟨reactions, []⟩] })

/-- The world once a processor has been handed a value, before it reacts. -/
def hand (w : World) (id : ProcessorId) (v : Value) : World :=
  { w with processors := w.processors.modify id.index fun p => { p with handed := p.handed ++ [v] } }

/-! ## Sessions -/

def session (w : World) (id : SessionId) : Session :=
  (w.sessions[id.index]?).getD default

def openSession (w : World) (s : Session) : SessionId × World :=
  (⟨w.sessions.length⟩, { w with sessions := w.sessions ++ [s] })

def setSession (w : World) (id : SessionId) (s : Session) : World :=
  { w with sessions := w.sessions.set id.index s }

/-- Declares an entry point of a session, unless it is declared already. -/
def declareEntryPoint (w : World) (id : SessionId) (name : String) : Nat × World :=
  let (partition, s) := (w.session id).declare name
  (partition, w.setSession id s)

end World
end RuleEngine
