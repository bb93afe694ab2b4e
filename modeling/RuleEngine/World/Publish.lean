import RuleEngine.World.Basic

/-!
# Publishing

A value that is published to a stream is stored first and then handed to the subscribers in the
order of subscription.  The first subscriber that fails ends the delivery; the value stays stored.
A new subscriber is registered first and then handed the values published before.

Subscribers may forward to other streams, also around a circle, and processors may publish to the very
stream that has handed them a value.  A circle comes to an end when a collector on it is full or a
processor has done all that it was to do.  `settleBound` is the depth that no delivery that ends can
exceed: between two visits of one stream at least one collector must have taken a value, or one
processor must have reacted to one, or nothing would have changed and the delivery would go round
forever.
-/

namespace RuleEngine
namespace World

/-- What an operation leaves: the world, and the error if it failed. -/
abbrev Outcome := World × Option Error

/-- Does something with each element in turn, until it fails with one. -/
def eachUntilError {σ α : Type} (f : σ → α → σ × Option Error) : σ → List α → σ × Option Error
  | s, [] => (s, none)
  | s, x :: rest =>
    match f s x with
    | (s, none) => eachUntilError f s rest
    | (s, some e) => (s, some e)

def collect (w : World) (id : CollectorId) (v : Value) : Outcome :=
  match w.collector? id with
  | none => (w, none)
  | some c =>
    if c.isFull then
      (w, some (Cause.action c.message))
    else
      ({ w with collectors := w.collectors.set id.index { c with taken := c.taken ++ [v] } }, none)

/-- Takes a value into a session. -/
def enter (w : World) (id : SessionId) (partition : Nat) (v : Value) : Outcome :=
  match (w.session id).insertThrough partition v with
  | .ok (_, s) => (w.setSession id s, none)
  | .error e => (w, some e)

/-- Hands a value to a subscriber, through at most `depth` streams and processors. -/
def deliver : Nat → Value → World → Subscriber → Outcome
  | _, v, w, .collect id => w.collect id v
  | _, v, w, .enter id partition => w.enter id partition v
  | 0, _, w, .forward _ => (w, some (Cause.internal "streams feed each other without end"))
  | 0, _, w, .process _ => (w, some (Cause.internal "streams feed each other without end"))
  | depth + 1, v, w, .forward id =>
    let w := w.modifyStream id fun s => { s with values := s.values ++ [v] }
    -- the subscribers as of now: those that subscribe during the delivery do not count
    eachUntilError (deliver depth v) w (w.stream id).subscribers
  | depth + 1, v, w, .process id =>
    let reaction := (w.processor id).next
    (reaction.publishes.foldl (fun w e => (deliver depth e.2 w (.forward e.1)).1) (w.hand id v),
      reaction.refusal)

/-- The number of streams and processors that a delivery that ends can pass through. -/
def settleBound (w : World) : Nat :=
  let room := w.collectors.foldl (fun room c => room + c.room) 0
  let pending := w.processors.foldl (fun pending p => pending + p.pending) 0
  (w.streams.length + 1) * (room + pending + 1) + 1

/-- Publishes a value to a stream. -/
def publish (w : World) (id : SourceId) (v : Value) : Outcome :=
  deliver w.settleBound v w (.forward id)

/-- Registers a subscriber with a stream and hands it the values published before. -/
def subscribe (w : World) (id : SourceId) (subscriber : Subscriber) : Outcome :=
  let earlier := (w.stream id).values
  let w := w.modifyStream id fun s => { s with subscribers := s.subscribers ++ [subscriber] }
  eachUntilError (fun w v => deliver w.settleBound v w subscriber) w earlier

end World
end RuleEngine
