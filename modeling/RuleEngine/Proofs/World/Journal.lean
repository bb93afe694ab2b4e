import Mathlib.Logic.Function.Basic
import RuleEngine.Proofs.World.Calls
import RuleEngine.Proofs.World.Registration

/-!
# A journal of the world

Beside the world a journal notes what its users could note themselves: by which entry point and under
which handle each object came into a session, and which subscription handed it over; which
subscriptions refused a value; into which streams a value came while they were handing out another; for
which entry point a subscription was made; which entry points were declared, in which order; and which
objects were updated or retracted.

The notes are never looked at: without them the journal goes through the same worlds.
-/

namespace RuleEngine

/-- A subscription: a stream and a place among its subscribers. -/
structure Feed where
  source : SourceId
  place : Nat
deriving DecidableEq

/-- The subscriber of a subscription. -/
def World.subscriber? (w : World) (feed : Feed) : Option Subscriber :=
  (w.stream feed.source).subscribers[feed.place]?

/-- A note that an object came into a session: by an entry point, under a handle, and, if it was not
inserted directly, from a subscription. -/
structure Entry where
  session : SessionId
  entryPoint : String
  handle : Handle
  value : Value
  feed : Option Feed

/-- A world with notes: the objects that came into sessions; the refusals; the streams that have echoed,
which is that a value came into them while they were handing out another; the entry points that
subscriptions were made for; the entry points that were declared; and the handles whose objects were
updated or retracted. -/
structure Journal where
  world : World
  entries : List Entry
  refusals : List Feed
  echoes : List SourceId
  owner : Feed → String
  declared : List (SessionId × String)
  changed : List (SessionId × Handle)

namespace Journal

open World (eachUntilError eachUntilError_view eachUntilError_keeps foldl_view Act Call)

abbrev Outcome := Journal × Option Error

def empty : Journal :=
  ⟨.empty, [], [], [], fun _ => "", [], []⟩

/-! ## Acts -/

def enter (j : Journal) (id : SessionId) (partition : Nat) (v : Value) (entryPoint : String)
    (feed : Option Feed) : Outcome :=
  match (j.world.session id).insertThrough partition v with
  | .ok (h, s) =>
    ({ j with
      world := j.world.setSession id s
      entries := j.entries ++ [⟨id, entryPoint, h, v, feed⟩] }, none)
  | .error e => (j, some e)

def collect (j : Journal) (id : CollectorId) (v : Value) : Outcome :=
  ({ j with world := (j.world.collect id v).1 }, (j.world.collect id v).2)

def hand (j : Journal) (id : ProcessorId) (v : Value) : Journal :=
  { j with world := j.world.hand id v }

def storing (j : Journal) (id : SourceId) (v : Value) : Journal :=
  { j with world := j.world.storing id v }

def registering (j : Journal) (id : SourceId) (subscriber : Subscriber) : Journal :=
  { j with world := j.world.registering id subscriber }

/-- Notes that a subscription has refused a value, if it has. -/
def watch (feed : Feed) : Outcome → Outcome
  | (j, none) => (j, none)
  | (j, some e) => ({ j with refusals := j.refusals ++ [feed] }, some e)

/-- Notes that a value has come into a stream since `before`, if one has. -/
def heed (id : SourceId) (before : Journal) (outcome : Outcome) : Outcome :=
  if (outcome.1.world.stream id).values.length = (before.world.stream id).values.length then
    outcome
  else
    ({ outcome.1 with echoes := outcome.1.echoes ++ [id] }, outcome.2)

/-- Hands a value to the subscriber of a subscription, through at most `depth` streams and
processors.  What a processor publishes comes to sessions by the subscriptions of the streams that it
publishes to. -/
def deliver : Nat → Value → Feed → Journal → Subscriber → Outcome
  | _, v, _, j, .collect id => j.collect id v
  | _, v, feed, j, .enter id partition => j.enter id partition v (j.owner feed) (some feed)
  | 0, _, _, j, .forward _ => (j, some (Cause.internal "streams feed each other without end"))
  | 0, _, _, j, .process _ => (j, some (Cause.internal "streams feed each other without end"))
  | depth + 1, v, _, j, .forward id =>
    let j := j.storing id v
    eachUntilError (fun j e => heed id j (watch ⟨id, e.2⟩ (deliver depth v ⟨id, e.2⟩ j e.1))) j
      (j.world.stream id).subscribers.zipIdx
  | depth + 1, v, feed, j, .process id =>
    let reaction := (j.world.processor id).next
    (reaction.publishes.foldl (fun j e => (deliver depth e.2 feed j (.forward e.1)).1) (j.hand id v),
      reaction.refusal)

/-- Hands a value to one of the subscribers of a stream. -/
def handOn (depth : Nat) (v : Value) (id : SourceId) (j : Journal) (e : Subscriber × Nat) :
    Outcome :=
  heed id j (watch ⟨id, e.2⟩ (deliver depth v ⟨id, e.2⟩ j e.1))

def publish (j : Journal) (id : SourceId) (v : Value) : Outcome :=
  eachUntilError (handOn (j.world.settleBound - 1) v id) (j.storing id v)
    ((j.storing id v).world.stream id).subscribers.zipIdx

/-- The subscription that is made next with a stream. -/
def nextFeed (j : Journal) (id : SourceId) : Feed :=
  ⟨id, (j.world.stream id).subscribers.length⟩

/-- Hands an earlier value to the subscriber of a new subscription. -/
def replay (feed : Feed) (subscriber : Subscriber) (j : Journal) (v : Value) : Outcome :=
  watch feed (deliver j.world.settleBound v feed j subscriber)

def subscribe (j : Journal) (id : SourceId) (subscriber : Subscriber) : Outcome :=
  eachUntilError (replay (j.nextFeed id) subscriber) (j.registering id subscriber)
    (j.world.stream id).values

def declare (j : Journal) (id : SessionId) (name : String) : Nat × Journal :=
  let (partition, w) := j.world.declareEntryPoint id name
  (partition,
    { j with
      world := w
      declared := if (id, name) ∈ j.declared then j.declared else j.declared ++ [(id, name)] })

/-- Lets a stream feed an entry point of a session. -/
def connect (j : Journal) (source : SourceId) (id : SessionId) (name : String) : Outcome :=
  let (partition, j) := j.declare id name
  { j with owner := Function.update j.owner (j.nextFeed source) name }.subscribe source
    (.enter id partition)

def insertAt (j : Journal) (id : SessionId) (entryPoint : Option String) (v : Value) : Outcome :=
  let name := entryPoint.getD (j.world.session id).defaultEntryPoint
  let (partition, j) := j.declare id name
  j.enter id partition v name none

/-- Makes an operation on a handle of a session; a handle that is dead is not changed. -/
def operate (j : Journal) (id : SessionId) (h : Handle) (operation : WorkingMemory.Operation) :
    Journal :=
  { j with
    world := j.world.changeMemory id (·.perform operation)
    changed :=
      if (j.world.session id).memory.contains h then j.changed ++ [(id, h)] else j.changed }

def act (j : Journal) (a : Act) : Journal :=
  match a with
  | .openSession defaultEntryPoint _ =>
    { j with
      world := j.world.act a
      declared := j.declared ++ [(⟨j.world.sessions.length⟩, defaultEntryPoint)] }
  | .publish id v => (j.publish id v).1
  | .subscribe source (.collector id) => (j.subscribe source (.collect id)).1
  | .subscribe source (.stream id) => (j.subscribe source (.forward id)).1
  | .subscribe source (.entryPoint id name) => (j.connect source id name).1
  | .subscribe source (.processor id) => (j.subscribe source (.process id)).1
  | .declare id name => (j.declare id name).2
  | .insert id entryPoint v => (j.insertAt id entryPoint v).1
  | .update id h v => j.operate id h (.update h v)
  | .retract id h => j.operate id h (.retract h)
  | .openStream | .openCollector .. | .openProcessor .. | .newFact .. | .setGlobal .. =>
    { j with world := j.world.act a }

/-- The journal after a call, which comes down to its acts. -/
def serve (j : Journal) (call : Call) : Journal :=
  if j.world.Admits call then (call.acts j.world).foldl act j else j

/-- The journal of calls, from the beginning. -/
def of (calls : List Call) : Journal :=
  calls.foldl serve empty

/-! ## The world of the journal -/

variable {j : Journal} {id : SourceId} {subscriber : Subscriber} {v : Value}

theorem enter_world (j : Journal) (id : SessionId) (partition : Nat) (v : Value)
    (entryPoint : String) (feed : Option Feed) :
    j.world.enter id partition v =
      ((j.enter id partition v entryPoint feed).1.world,
        (j.enter id partition v entryPoint feed).2) := by
  unfold World.enter enter
  cases (j.world.session id).insertThrough partition v <;> rfl

@[simp] theorem watch_world (feed : Feed) (outcome : Outcome) :
    (watch feed outcome).1.world = outcome.1.world := by
  rcases outcome with ⟨j, _ | e⟩ <;> rfl

@[simp] theorem watch_error (feed : Feed) (outcome : Outcome) :
    (watch feed outcome).2 = outcome.2 := by
  rcases outcome with ⟨j, _ | e⟩ <;> rfl

@[simp] theorem heed_world (id : SourceId) (before : Journal) (outcome : Outcome) :
    (heed id before outcome).1.world = outcome.1.world := by
  unfold heed
  split <;> rfl

@[simp] theorem heed_error (id : SourceId) (before : Journal) (outcome : Outcome) :
    (heed id before outcome).2 = outcome.2 := by
  unfold heed
  split <;> rfl

theorem watch_of_taken {feed : Feed} {outcome : Outcome} (taken : outcome.2 = none) :
    watch feed outcome = outcome := by
  rcases outcome with ⟨j, _ | e⟩
  · rfl
  · cases taken

theorem mem_refusals_watch {feed : Feed} {outcome : Outcome} (refused : outcome.2 ≠ none) :
    feed ∈ (watch feed outcome).1.refusals := by
  rcases outcome with ⟨j, _ | e⟩
  · exact absurd rfl refused
  · exact List.mem_append_right _ (List.mem_singleton_self feed)

/-- What a session gets, it takes in. -/
theorem deliver_enter (depth : Nat) (v : Value) (feed : Feed) (j : Journal) (id : SessionId)
    (partition : Nat) :
    j.deliver depth v feed (.enter id partition) =
      j.enter id partition v (j.owner feed) (some feed) := by
  cases depth <;> rfl

/-- A delivery is the same with and without notes. -/
theorem deliver_world (depth : Nat) (v : Value) (feed : Feed) (j : Journal)
    (subscriber : Subscriber) :
    World.deliver depth v j.world subscriber =
      ((j.deliver depth v feed subscriber).1.world, (j.deliver depth v feed subscriber).2) := by
  induction depth generalizing v feed j subscriber with
  | zero =>
      cases subscriber with
      | collect id => rfl
      | forward id => rfl
      | enter id partition => exact enter_world j id partition v _ _
      | process id => rfl
  | succ depth ih =>
      cases subscriber with
      | collect id => rfl
      | enter id partition => exact enter_world j id partition v _ _
      | process id =>
          refine Prod.ext ?_ rfl
          refine foldl_view (P := fun _ => True) Journal.world (t := j.hand id v) ?_ trivial
          intro u e _ _
          exact ⟨congrArg Prod.fst (ih e.2 feed u (.forward e.1)), trivial⟩
      | forward id =>
          -- the journal goes through the subscribers with their places, the world without them
          have loop :
              eachUntilError (World.deliver depth v) (j.storing id v).world
                  (((j.storing id v).world.stream id).subscribers.zipIdx.map Prod.fst) =
                ((j.deliver (depth + 1) v feed (.forward id)).1.world,
                  (j.deliver (depth + 1) v feed (.forward id)).2) := by
            refine eachUntilError_view (P := fun _ => True) Journal.world Prod.fst ?_ trivial
            intro j e _ _
            refine ⟨?_, trivial⟩
            rw [heed_world, heed_error, watch_world, watch_error]
            exact ih v _ j e.1
          rw [List.zipIdx_map_fst] at loop
          exact loop

/-- Publishing is a delivery to a stream. -/
theorem publish_eq_deliver (j : Journal) (id : SourceId) (v : Value) (feed : Feed) :
    j.publish id v = j.deliver j.world.settleBound v feed (.forward id) :=
  rfl

theorem publish_world (j : Journal) (id : SourceId) (v : Value) :
    j.world.publish id v = ((j.publish id v).1.world, (j.publish id v).2) :=
  deliver_world j.world.settleBound v (j.nextFeed id) j (.forward id)

theorem subscribe_world (j : Journal) (id : SourceId) (subscriber : Subscriber) :
    j.world.subscribe id subscriber =
      ((j.subscribe id subscriber).1.world, (j.subscribe id subscriber).2) := by
  have loop :
      eachUntilError (World.replay subscriber) (j.registering id subscriber).world
          ((j.world.stream id).values.map fun v => v) =
        ((j.subscribe id subscriber).1.world, (j.subscribe id subscriber).2) := by
    unfold subscribe
    refine eachUntilError_view (P := fun _ => True) Journal.world (fun v => v) ?_ trivial
    intro j' v _ _
    refine ⟨?_, trivial⟩
    rw [replay, watch_world, watch_error]
    exact deliver_world _ v _ j' subscriber
  rw [List.map_id'] at loop
  exact loop

theorem connect_world (j : Journal) (source : SourceId) (id : SessionId) (name : String) :
    j.world.applyWiring id (.subscribe source name) =
      ((j.connect source id name).1.world, (j.connect source id name).2) := by
  unfold connect
  exact subscribe_world
    { (j.declare id name).2 with
      owner := Function.update j.owner ((j.declare id name).2.nextFeed source) name }
    source (.enter id (j.declare id name).1)

/-- An act is the same with and without notes. -/
theorem act_world (j : Journal) (a : Act) : (j.act a).world = j.world.act a := by
  cases a with
  | publish id v => exact (congrArg Prod.fst (publish_world j id v)).symm
  | subscribe source reader =>
      cases reader with
      | collector id => exact (congrArg Prod.fst (subscribe_world j source (.collect id))).symm
      | stream id => exact (congrArg Prod.fst (subscribe_world j source (.forward id))).symm
      | processor id => exact (congrArg Prod.fst (subscribe_world j source (.process id))).symm
      | entryPoint id name => exact (congrArg Prod.fst (connect_world j source id name)).symm
  | insert id entryPoint v =>
      exact (congrArg Prod.fst (enter_world (j.declare id _).2 id _ v _ none)).symm
  | _ => rfl

theorem acts_world (j : Journal) (acts : List Act) :
    (acts.foldl act j).world = acts.foldl World.act j.world := by
  induction acts generalizing j with
  | nil => rfl
  | cons a rest ih => rw [List.foldl_cons, List.foldl_cons, ih, act_world]

theorem serve_world (regular : j.world.Regular) (call : Call) :
    (j.serve call).world = j.world.serve call := by
  unfold serve
  split
  · rename_i admitted
    rw [acts_world, World.serve_eq_acts regular admitted]
  · rename_i refused
    rw [World.serve_of_not_admitted (Bool.eq_false_iff.2 refused)]

/-- The journal of calls is about the world that they leave. -/
theorem of_world (calls : List Call) : (of calls).world = World.serveAll calls := by
  have along : ∀ (j : Journal), j.world.Regular →
      (calls.foldl serve j).world = calls.foldl World.serve j.world := by
    induction calls with
    | nil => exact fun _ _ => rfl
    | cons call rest ih =>
        intro j regular
        have served := serve_world regular call
        rw [List.foldl_cons, List.foldl_cons, ih _ (served ▸ regular.serve call), served]
  exact along empty World.regular_empty

/-! ## Invariants of the journal -/

/-- A property that every small change of a delivery keeps, when sessions take in only what
subscriptions hand to them. -/
structure Kept (P : Journal → Prop) : Prop where
  store : ∀ j id v, P j → P (j.storing id v)
  collect : ∀ j id v, P j → P (j.collect id v).1
  hand : ∀ j id v, P j → P (j.hand id v)
  enter : ∀ (j : Journal) feed id partition v,
    j.world.subscriber? feed = some (.enter id partition) → P j →
      P (j.enter id partition v (j.owner feed) (some feed)).1
  refuse : ∀ (j : Journal) feed, P j → P { j with refusals := j.refusals ++ [feed] }
  echo : ∀ (j : Journal) id, P j → P { j with echoes := j.echoes ++ [id] }

theorem extends_deliver (depth : Nat) (v : Value) (feed : Feed) (j : Journal)
    (subscriber : Subscriber) :
    World.Extends j.world (j.deliver depth v feed subscriber).1.world := by
  have same : (World.deliver depth v j.world subscriber).1 =
      (j.deliver depth v feed subscriber).1.world :=
    congrArg Prod.fst (deliver_world depth v feed j subscriber)
  rw [← same]
  exact (World.Extends.kept j.world).deliver depth v (.refl _) fun _ _ _ => trivial

theorem extends_handOn (depth : Nat) (v : Value) (id : SourceId) (j : Journal)
    (e : Subscriber × Nat) : World.Extends j.world (handOn depth v id j e).1.world := by
  rw [handOn, heed_world, watch_world]
  exact extends_deliver depth v _ j e.1

theorem extends_replay (feed : Feed) (subscriber : Subscriber) (j : Journal) (v : Value) :
    World.Extends j.world (replay feed subscriber j v).1.world := by
  rw [replay, watch_world]
  exact extends_deliver _ v feed j subscriber

/-- Subscriptions stay while values are handed out. -/
theorem subscriber?_of_extends {w w' : World} (extended : World.Extends w w') (feed : Feed) :
    w'.subscriber? feed = w.subscriber? feed := by
  unfold World.subscriber?
  rw [extended.subscribers_eq]

/-- A stream that holds a value was opened. -/
theorem opened_of_mem {w : World} (earlier : v ∈ (w.stream id).values) :
    id.index < w.streams.length := by
  by_contra unopened
  rw [World.stream_of_unopened unopened] at earlier
  cases earlier

theorem subscriber?_nextFeed (j : Journal) (id : SourceId) :
    j.world.subscriber? (j.nextFeed id) = none :=
  List.getElem?_eq_none (Nat.le_refl _)

/-- Registering makes the next subscription, and leaves the others as they are. -/
theorem subscriber?_registering (j : Journal) (id : SourceId) (subscriber : Subscriber)
    (feed : Feed) :
    (j.registering id subscriber).world.subscriber? feed =
      if feed = j.nextFeed id ∧ id.index < j.world.streams.length then some subscriber
      else j.world.subscriber? feed := by
  rcases feed with ⟨source, place⟩
  -- the new subscriber stands behind the others of its stream
  unfold World.subscriber? registering World.registering nextFeed
  rw [World.stream_modifyStream]
  by_cases here : id = source ∧ id.index < j.world.streams.length
  · rcases here with ⟨rfl, opened⟩
    rw [if_pos ⟨rfl, opened⟩, List.getElem?_append]
    rcases Nat.lt_trichotomy place (j.world.stream id).subscribers.length with
      earlier | rfl | later
    · simp [earlier, Nat.ne_of_lt earlier]
    · simp [opened]
    · have beyond : place - (j.world.stream id).subscribers.length ≠ 0 := by omega
      simp [Nat.not_lt.2 (Nat.le_of_lt later), Nat.ne_of_gt later, beyond]
  · have apart : ¬ ((⟨source, place⟩ : Feed) = ⟨id, (j.world.stream id).subscribers.length⟩ ∧
        id.index < j.world.streams.length) := by
      rintro ⟨same, opened⟩
      cases same
      exact here ⟨rfl, opened⟩
    rw [if_neg here, if_neg apart]

variable {P : Journal → Prop}

theorem Kept.watch (kept : Kept P) {feed : Feed} {outcome : Outcome} (after : P outcome.1) :
    P (watch feed outcome).1 := by
  rcases outcome with ⟨j, _ | e⟩
  · exact after
  · exact kept.refuse j feed after

theorem Kept.heed (kept : Kept P) {before : Journal} {outcome : Outcome} (after : P outcome.1) :
    P (heed id before outcome).1 := by
  unfold Journal.heed
  split
  · exact after
  · exact kept.echo outcome.1 id after

theorem Kept.deliver (kept : Kept P) (depth : Nat) (v : Value) {feed : Feed} (hj : P j)
    (registered : ∀ id partition, subscriber = .enter id partition →
      j.world.subscriber? feed = some subscriber) :
    P (j.deliver depth v feed subscriber).1 := by
  induction depth generalizing v j feed subscriber with
  | zero =>
      cases subscriber with
      | collect id => exact kept.collect j id v hj
      | forward id => exact hj
      | enter id partition => exact kept.enter j feed id partition v (registered _ _ rfl) hj
      | process id => exact hj
  | succ depth ih =>
      cases subscriber with
      | collect id => exact kept.collect j id v hj
      | enter id partition => exact kept.enter j feed id partition v (registered _ _ rfl) hj
      | process id =>
          exact List.foldlRecOn _ _ (kept.hand j id v hj) fun _ hu e _ => ih e.2 hu nofun
      | forward id =>
          let stored := j.storing id v
          -- the subscriptions are those of the stream once it has stored the value
          have loop : P (eachUntilError (handOn depth v id) stored
                (stored.world.stream id).subscribers.zipIdx).1 ∧
              World.Extends stored.world (eachUntilError (handOn depth v id) stored
                (stored.world.stream id).subscribers.zipIdx).1.world := by
            refine eachUntilError_keeps
              (P := fun u : Journal => P u ∧ World.Extends stored.world u.world) ?_
              ⟨kept.store j id v hj, .refl _⟩
            rintro u ⟨next, place⟩ there ⟨hu, extended⟩
            have here : u.world.subscriber? ⟨id, place⟩ = some next :=
              (subscriber?_of_extends extended _).trans (List.mem_zipIdx_iff_getElem?.1 there)
            exact ⟨kept.heed (kept.watch (ih v hu fun _ _ _ => here)),
              extended.trans (extends_handOn depth v id u _)⟩
          exact loop.1

theorem Kept.publish (kept : Kept P) (hj : P j) (id : SourceId) (v : Value) :
    P (j.publish id v).1 := by
  rw [publish_eq_deliver j id v (j.nextFeed id)]
  exact kept.deliver _ v hj nofun

/-- Subscribing registers the subscriber and then makes deliveries to it. -/
theorem Kept.subscribe (kept : Kept P) (registered : P (j.registering id subscriber)) :
    P (j.subscribe id subscriber).1 := by
  -- the subscription stays where it was registered while values are handed to it
  have loop : P (j.subscribe id subscriber).1 ∧
      World.Extends (j.registering id subscriber).world (j.subscribe id subscriber).1.world := by
    unfold Journal.subscribe
    refine eachUntilError_keeps
      (P := fun u : Journal => P u ∧ World.Extends (j.registering id subscriber).world u.world) ?_
      ⟨registered, .refl _⟩
    rintro u v earlier ⟨hu, extended⟩
    have here : u.world.subscriber? (j.nextFeed id) = some subscriber :=
      (subscriber?_of_extends extended _).trans
        ((subscriber?_registering j id subscriber _).trans (if_pos ⟨rfl, opened_of_mem earlier⟩))
    exact ⟨kept.watch (kept.deliver _ v hu fun _ _ _ => here),
      extended.trans (extends_replay _ subscriber u v)⟩
  exact loop.1

/-- A property that every act keeps, on a session that was opened, is kept by a call. -/
theorem serve_keeps
    (step : ∀ (j : Journal) a, j.world.Regular → j.world.Admits (.act a) = true → P j → P (j.act a))
    (regular : j.world.Regular) (hj : P j) (call : Call) : P (j.serve call) := by
  unfold serve
  split
  · rename_i admitted
    -- the acts of the call were listed before the first of them, so each must stay admitted
    have along : ∀ u : Journal, (World.Advances j.world u.world ∧ u.world.Regular ∧ P u) →
        ∀ a ∈ call.acts j.world,
          World.Advances j.world (u.act a).world ∧ (u.act a).world.Regular ∧ P (u.act a) := by
      rintro u ⟨advances, regular, hu⟩ a there
      have admitted' := World.admits_of_mem_acts admitted there advances
      have same := act_world u a
      refine ⟨same ▸ advances.trans (.act u.world a), same ▸ regular.act a, ?_⟩
      exact step u a regular admitted' hu
    have after := List.foldlRecOn (call.acts j.world) act
      (motive := fun u => World.Advances j.world u.world ∧ u.world.Regular ∧ P u)
      ⟨.refl _, regular, hj⟩ along
    exact after.2.2
  · exact hj

/-- A property of the empty journal that every act keeps holds of the journal of all calls. -/
theorem of_keeps
    (step : ∀ (j : Journal) a, j.world.Regular → j.world.Admits (.act a) = true → P j → P (j.act a))
    (start : P empty) (calls : List Call) : P (of calls) := by
  have along : ∀ j : Journal, (j.world.Regular ∧ P j) → ∀ call ∈ calls,
      (j.serve call).world.Regular ∧ P (j.serve call) := by
    rintro j ⟨regular, hj⟩ call -
    exact ⟨serve_world regular call ▸ regular.serve call, serve_keeps step regular hj call⟩
  have after := List.foldlRecOn calls serve (motive := fun j => j.world.Regular ∧ P j)
    ⟨World.regular_empty, start⟩ along
  exact after.2

end Journal
end RuleEngine
