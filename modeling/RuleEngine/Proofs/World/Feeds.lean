import RuleEngine.Proofs.World.Partitions

/-!
# What feeds bring into a session

A stream whose subscribers refuse nothing, and do not publish to it while they are handed a value,
brings each of its values into each session that it feeds, once for every subscription and in the order
of publishing: the values that were stored when the subscription was made are replayed, and the later
ones are handed on.

What is handed to one subscriber may go a long way, through other streams and processors.  Either
another value comes into the stream on this way, which the journal notes as an echo, or the stream, and
what the others have got, stay as they are.  After an echo the subscribers behind have got the later
value first.
-/

namespace RuleEngine
namespace World

/-- A loop that fails leaves what its last step leaves. -/
theorem eachUntilError_error {σ α : Type} {P : σ → Prop} {f : σ → α → σ × Option Error}
    {xs : List α} (step : ∀ s, ∀ x ∈ xs, (f s x).2 ≠ none → P (f s x).1) {s : σ}
    (failed : (eachUntilError f s xs).2 ≠ none) : P (eachUntilError f s xs).1 := by
  induction xs generalizing s with
  | nil => exact absurd rfl failed
  | cons x rest ih =>
      have here := step s x List.mem_cons_self
      rcases outcome : f s x with ⟨s', _ | e⟩
      · simp only [eachUntilError, outcome] at failed ⊢
        exact ih (fun s y hy => step s y (List.mem_cons_of_mem _ hy)) failed
      · rw [outcome] at here
        simp only [eachUntilError, outcome]
        exact here (Option.some_ne_none e)

end World

namespace Journal

open World (eachUntilError eachUntilError_keeps eachUntilError_error Act Call)

variable {j j' j'' : Journal} {source : SourceId} {subscriber : Subscriber} {v : Value}

/-! ## What is left aside -/

/-- What came into a session by a subscription, in order. -/
def via (j : Journal) (feed : Feed) : List Entry :=
  j.entries.filter (·.feed = some feed)

/-- Some subscription of the stream has refused a value, or the stream has echoed. -/
def Hindered (source : SourceId) (j : Journal) : Prop :=
  (∃ place, ⟨source, place⟩ ∈ j.refusals) ∨ source ∈ j.echoes

theorem Hindered.kept (source : SourceId) : Kept (Hindered source) where
  store _ _ _ hindered := hindered
  collect _ _ _ hindered := hindered
  hand _ _ _ hindered := hindered
  enter j f id partition v _ hindered := by
    unfold Journal.enter
    cases (j.world.session id).insertThrough partition v <;> exact hindered
  refuse j feed hindered :=
    hindered.imp_left fun ⟨place, refused⟩ => ⟨place, List.mem_append_left _ refused⟩
  echo j id hindered := hindered.imp_right (List.mem_append_left _)

/-- Something happens aside from a stream: the stream is as it was, and so is all that it has handed
over. -/
structure Aside (source : SourceId) (j j' : Journal) : Prop where
  stream_eq : j'.world.stream source = j.world.stream source
  via_eq : ∀ place, j'.via ⟨source, place⟩ = j.via ⟨source, place⟩
  hindered : j.Hindered source → j'.Hindered source

theorem Aside.refl (source : SourceId) (j : Journal) : Aside source j j :=
  ⟨rfl, fun _ => rfl, id⟩

theorem Aside.trans (first : Aside source j j') (second : Aside source j' j'') :
    Aside source j j'' where
  stream_eq := second.stream_eq.trans first.stream_eq
  via_eq place := (second.via_eq place).trans (first.via_eq place)
  hindered before := second.hindered (first.hindered before)

theorem Aside.store {other : SourceId} (apart : other ≠ source) (j : Journal) (v : Value) :
    Aside source j (j.storing other v) where
  stream_eq := (World.Undisturbed.store apart v).stream_eq
  via_eq _ := rfl
  hindered := id

theorem Aside.collect (j : Journal) (id : CollectorId) (v : Value) :
    Aside source j (j.collect id v).1 where
  stream_eq := (World.Undisturbed.collect j.world id v).stream_eq
  via_eq _ := rfl
  hindered before := before

theorem Aside.hand (j : Journal) (id : ProcessorId) (v : Value) : Aside source j (j.hand id v) :=
  ⟨rfl, fun _ => rfl, fun before => before⟩

theorem stream_enter (j : Journal) (id : SessionId) (partition : Nat) (v : Value) (name : String)
    (feed : Option Feed) (source : SourceId) :
    (j.enter id partition v name feed).1.world.stream source = j.world.stream source := by
  have same : (j.world.enter id partition v).1 = (j.enter id partition v name feed).1.world :=
    congrArg Prod.fst (enter_world j id partition v name feed)
  rw [← same]
  exact (World.Undisturbed.enter j.world id partition v).stream_eq

theorem Aside.enter {feed : Option Feed} (apart : ∀ place, feed ≠ some ⟨source, place⟩)
    (j : Journal) (id : SessionId) (partition : Nat) (v : Value) (name : String) :
    Aside source j (j.enter id partition v name feed).1 where
  stream_eq := stream_enter j id partition v name feed source
  via_eq place := by
    unfold Journal.enter
    cases (j.world.session id).insertThrough partition v with
    | error e => rfl
    | ok r => simp [via, apart place]
  hindered before := by
    unfold Journal.enter
    cases (j.world.session id).insertThrough partition v <;> exact before

theorem Aside.watch {feed : Feed} {outcome : Outcome} (aside : Aside source j outcome.1) :
    Aside source j (watch feed outcome).1 := by
  rcases outcome with ⟨j', _ | e⟩
  · exact aside
  · exact aside.trans ⟨rfl, fun _ => rfl, (Hindered.kept source).refuse j' feed⟩

theorem Aside.heed {id : SourceId} {before : Journal} {outcome : Outcome}
    (aside : Aside source j outcome.1) : Aside source j (heed id before outcome).1 := by
  unfold Journal.heed
  split
  · exact aside
  · exact aside.trans ⟨rfl, fun _ => rfl, (Hindered.kept source).echo outcome.1 id⟩

/-- A session that takes something in from elsewhere is noted under another subscription. -/
theorem Aside.enter_elsewhere {feed : Feed} (away : feed.source ≠ source) (j : Journal)
    (id : SessionId) (partition : Nat) (v : Value) (name : String) :
    Aside source j (j.enter id partition v name (some feed)).1 := by
  refine .enter (fun place same => away ?_) j id partition v name
  rw [Option.some.inj same]

/-- Something happens that makes no subscriptions, and it happens aside from a stream if no value comes
into the stream meanwhile. -/
structure Passes (source : SourceId) (j j' : Journal) : Prop where
  extended : World.Extends j.world j'.world
  aside : (j'.world.stream source).values.length = (j.world.stream source).values.length →
    Aside source j j'

theorem Passes.trans (first : Passes source j j') (second : Passes source j' j'') :
    Passes source j j'' where
  extended := first.extended.trans second.extended
  aside same := by
    -- streams only get longer, so no value came in on the way either
    have up := (first.extended.values_extend source).length_le
    have up' := (second.extended.values_extend source).length_le
    exact (first.aside (by omega)).trans (second.aside (by omega))

theorem length_storing {id : SourceId} (opened : id.index < j.world.streams.length) (v : Value) :
    ((j.storing id v).world.stream id).values.length =
      (j.world.stream id).values.length + 1 := by
  rw [storing, World.stream_storing opened, List.length_append]
  rfl

theorem Passes.store (j : Journal) (id : SourceId) (v : Value) :
    Passes source j (j.storing id v) where
  extended := .store j.world id v
  aside same := by
    by_cases here : id = source ∧ id.index < j.world.streams.length
    · rcases here with ⟨rfl, opened⟩
      rw [length_storing opened] at same
      exact absurd same (Nat.succ_ne_self _)
    · -- another stream stores the value, or none
      refine ⟨?_, fun _ => rfl, fun before => before⟩
      rw [storing, World.storing, World.stream_modifyStream, if_neg here]

/-- A value that comes to a stream makes it longer. -/
theorem lt_length_forward {id : SourceId} (opened : id.index < j.world.streams.length) (depth : Nat)
    (v : Value) (feed : Feed) :
    (j.world.stream id).values.length <
      ((j.deliver (depth + 1) v feed (.forward id)).1.world.stream id).values.length := by
  have extended : World.Extends (j.storing id v).world
      (j.deliver (depth + 1) v feed (.forward id)).1.world :=
    eachUntilError_keeps (P := fun u : Journal => World.Extends (j.storing id v).world u.world)
      (fun u e _ extended => extended.trans (extends_handOn depth v id u e)) (.refl _)
  have up := (extended.values_extend id).length_le
  rw [length_storing opened] at up
  exact up

/-- Nobody reads a stream that was not opened. -/
theorem forward_of_unopened {id : SourceId} (unopened : ¬ id.index < j.world.streams.length)
    (depth : Nat) (v : Value) (feed : Feed) :
    j.deliver (depth + 1) v feed (.forward id) = (j.storing id v, none) := by
  have still : ¬ id.index < (j.storing id v).world.streams.length := by
    rwa [storing, World.storing, World.modifyStream, List.length_modify]
  have nobody : ((j.storing id v).world.stream id).subscribers = [] := by
    rw [World.stream_of_unopened still]
  rw [deliver, nobody]
  rfl

theorem Passes.handOn {depth : Nat} {id : SourceId} {e : Subscriber × Nat}
    (passes : Passes source j (j.deliver depth v ⟨id, e.2⟩ e.1).1) :
    Passes source j (handOn depth v id j e).1 where
  extended := extends_handOn depth v id j e
  aside same := by
    rw [Journal.handOn, heed_world, watch_world] at same
    exact (passes.aside same).watch.heed

/-- A delivery that brings no value into a stream happens aside from it, unless it goes to one of its
own sessions. -/
theorem Passes.deliver (depth : Nat) (v : Value) {feed : Feed}
    (elsewhere : ∀ id partition, subscriber = .enter id partition → feed.source ≠ source) :
    Passes source j (j.deliver depth v feed subscriber).1 := by
  induction depth generalizing v j feed subscriber with
  | zero =>
      refine ⟨extends_deliver 0 v feed j subscriber, fun _ => ?_⟩
      cases subscriber with
      | collect id => exact .collect j id v
      | forward id => exact .refl _ j
      | enter id partition => exact .enter_elsewhere (elsewhere id partition rfl) j id partition v _
      | process id => exact .refl _ j
  | succ depth ih =>
      refine ⟨extends_deliver (depth + 1) v feed j subscriber, fun same => ?_⟩
      cases subscriber with
      | collect id => exact .collect j id v
      | enter id partition => exact .enter_elsewhere (elsewhere id partition rfl) j id partition v _
      | process id =>
          have begun : Passes source j (j.hand id v) :=
            ⟨.of_undisturbed fun _ => .hand j.world id v, fun _ => .hand j id v⟩
          have all : Passes source j (j.deliver (depth + 1) v feed (.process id)).1 :=
            List.foldlRecOn (motive := Passes source j) _ _ begun
              fun _ passes e _ => passes.trans (ih e.2 nofun)
          exact all.aside same
      | forward id =>
          by_cases opened : id.index < j.world.streams.length
          · have away : id ≠ source := by
              rintro rfl
              exact Nat.ne_of_gt (lt_length_forward opened depth v feed) same
            have all : Passes source j (j.deliver (depth + 1) v feed (.forward id)).1 :=
              eachUntilError_keeps (P := Passes source j)
                (fun _ _ _ passes => passes.trans (Passes.handOn (ih v fun _ _ _ => away)))
                (.store j id v)
            exact all.aside same
          · rw [forward_of_unopened opened] at same ⊢
            exact (Passes.store j id v).aside same

/-! ## Handing a value to all subscribers -/

/-- The values that came into a session by a subscription, in order. -/
def received (j : Journal) (feed : Feed) : List Value :=
  (j.via feed).map (·.value)

theorem Aside.received_eq (aside : Aside source j j') (place : Nat) :
    j'.received ⟨source, place⟩ = j.received ⟨source, place⟩ :=
  congrArg (List.map Entry.value) (aside.via_eq place)

/-- A session that takes a value in has received it, and nothing else is received. -/
theorem received_enter {id : SessionId} {partition : Nat} {name : String} {feed : Feed}
    (taken : (j.enter id partition v name (some feed)).2 = none) (other : Feed) :
    (j.enter id partition v name (some feed)).1.received other =
      j.received other ++ if other = feed then [v] else [] := by
  unfold enter at taken ⊢
  cases inserted : (j.world.session id).insertThrough partition v with
  | error e => simp [inserted] at taken
  | ok r =>
      by_cases same : feed = other
      · simp [received, via, same]
      · simp [received, via, same, Ne.symm same]

variable {depth place : Nat}

theorem Hindered.deliver (hindered : j.Hindered source) (depth : Nat) (v : Value) (feed : Feed)
    (subscriber : Subscriber) : (j.deliver depth v feed subscriber).1.Hindered source := by
  cases subscriber with
  | enter id partition =>
      rw [deliver_enter]
      unfold Journal.enter
      cases (j.world.session id).insertThrough partition v <;> exact hindered
  | collect id => exact (kept source).deliver depth v hindered nofun
  | forward id => exact (kept source).deliver depth v hindered nofun
  | process id => exact (kept source).deliver depth v hindered nofun

theorem Hindered.handOn (hindered : j.Hindered source) (depth : Nat) (v : Value) (id : SourceId)
    (e : Subscriber × Nat) : (handOn depth v id j e).1.Hindered source :=
  (kept source).heed ((kept source).watch (hindered.deliver depth v _ e.1))

/-- What the first subscriber hinders stays hindered when the others have their turn. -/
theorem Hindered.handAll {e : Subscriber × Nat} {id : SourceId}
    (hindered : (Journal.handOn depth v id j e).1.Hindered source) (rest : List (Subscriber × Nat)) :
    (eachUntilError (Journal.handOn depth v id) j (e :: rest)).1.Hindered source := by
  rcases outcome : Journal.handOn depth v id j e with ⟨next, _ | error⟩
  · rw [outcome] at hindered
    simp only [eachUntilError, outcome]
    exact eachUntilError_keeps (P := Hindered source)
      (fun _ e _ hindered => hindered.handOn depth v id e) hindered
  · rw [outcome] at hindered
    simpa only [eachUntilError, outcome] using hindered

/-- Where nothing is refused and nothing echoes, a subscriber has taken the value, the stream is as it
was, and if the subscriber is a session, the session has received the value. -/
theorem handOn_of_unhindered
    (free : ¬ (handOn depth v source j (subscriber, place)).1.Hindered source) :
    let j' := (handOn depth v source j (subscriber, place)).1
    (handOn depth v source j (subscriber, place)).2 = none ∧
    j'.world.stream source = j.world.stream source ∧
    (∀ other, other ≠ place → j'.received ⟨source, other⟩ = j.received ⟨source, other⟩) ∧
    ∀ id partition, subscriber = .enter id partition →
      j'.received ⟨source, place⟩ = j.received ⟨source, place⟩ ++ [v] := by
  have taken : (j.deliver depth v ⟨source, place⟩ subscriber).2 = none := by
    by_contra refused
    exact free ((Hindered.kept source).heed (Or.inl ⟨place, mem_refusals_watch refused⟩))
  have quiet : ((watch ⟨source, place⟩
      (j.deliver depth v ⟨source, place⟩ subscriber)).1.world.stream source).values.length =
        (j.world.stream source).values.length := by
    by_contra longer
    apply free
    rw [handOn, heed, if_neg longer]
    exact Or.inr (List.mem_append_right _ (List.mem_singleton_self source))
  -- with nothing to note the delivery is all that happens
  have same : handOn depth v source j (subscriber, place) =
      j.deliver depth v ⟨source, place⟩ subscriber := by
    rw [handOn, heed, if_pos quiet, watch_of_taken taken]
  rw [watch_world] at quiet
  simp only [same]
  refine ⟨taken, ?_⟩
  by_cases feeds : ∃ id partition, subscriber = .enter id partition
  · rcases feeds with ⟨id, partition, rfl⟩
    rw [deliver_enter] at taken ⊢
    refine ⟨stream_enter j id partition v _ _ source, ?_, ?_⟩
    · intro other away
      have elsewhere : (⟨source, other⟩ : Feed) ≠ ⟨source, place⟩ := by
        rintro ⟨⟩
        exact away rfl
      rw [received_enter taken, if_neg elsewhere, List.append_nil]
    · intro _ _ _
      rw [received_enter taken, if_pos rfl]
  · have passes : Passes source j (j.deliver depth v ⟨source, place⟩ subscriber).1 :=
      .deliver depth v fun id partition here => absurd ⟨id, partition, here⟩ feeds
    have aside := passes.aside quiet
    refine ⟨aside.stream_eq, fun other _ => aside.received_eq other, ?_⟩
    exact fun id partition here => absurd ⟨id, partition, here⟩ feeds

/-- Where nothing is refused and nothing echoes, all subscribers of a stream have taken a value, each in
its turn: the stream is as it was, and every session that it feeds has received the value, once for each
subscription. -/
theorem handAll_of_unhindered {subscribers : List Subscriber} {first : Nat}
    (free : ¬ (eachUntilError (handOn depth v source) j
      (subscribers.zipIdx first)).1.Hindered source) :
    let j' := (eachUntilError (handOn depth v source) j (subscribers.zipIdx first)).1
    j'.world.stream source = j.world.stream source ∧
    (∀ other, other < first → j'.received ⟨source, other⟩ = j.received ⟨source, other⟩) ∧
    ∀ k id partition, subscribers[k]? = some (.enter id partition) →
      j'.received ⟨source, first + k⟩ = j.received ⟨source, first + k⟩ ++ [v] := by
  -- the places before `first` have had their turn
  induction subscribers generalizing j first with
  | nil => exact ⟨rfl, fun _ _ => rfl, by simp⟩
  | cons subscriber rest ih =>
      rw [List.zipIdx_cons] at free ⊢
      obtain ⟨taken, here⟩ := handOn_of_unhindered fun hindered => free (Hindered.handAll hindered _)
      rcases outcome : handOn depth v source j (subscriber, first) with ⟨next, error⟩
      rw [outcome] at taken here
      subst taken
      simp only [eachUntilError, outcome] at free ⊢
      obtain ⟨stream, earlier, later⟩ := ih free
      -- the rest leaves what this subscriber has got as it is, and the other way round
      refine ⟨stream.trans here.1, ?_, ?_⟩
      · intro other before
        rw [earlier other (Nat.lt_succ_of_lt before), here.2.1 other (Nat.ne_of_lt before)]
      · intro k id partition registered
        cases k with
        | zero =>
            rw [earlier (first + 0) (Nat.lt_succ_self _)]
            exact here.2.2 id partition (Option.some.inj registered)
        | succ k =>
            have place : first + (k + 1) = first + 1 + k := by omega
            have away : first + 1 + k ≠ first := by omega
            rw [place, later k id partition registered, here.2.1 _ away]

/-! ## Streams that have handed all over -/

/-- Every session has received all values of the stream, by each subscription that feeds it. -/
def Complete (j : Journal) (source : SourceId) : Prop :=
  ∀ place id partition, j.world.subscriber? ⟨source, place⟩ = some (.enter id partition) →
    j.received ⟨source, place⟩ = (j.world.stream source).values

/-- Nothing has been lost, or has come out of order, unless the stream was hindered. -/
def Settled (source : SourceId) (j : Journal) : Prop :=
  j.Hindered source ∨ j.Complete source

theorem Settled.aside (hj : j.Settled source) (aside : Aside source j j') : j'.Settled source := by
  rcases hj with hindered | complete
  · exact Or.inl (aside.hindered hindered)
  · refine Or.inr fun place id partition registered => ?_
    unfold World.subscriber? at registered
    rw [aside.stream_eq] at registered
    rw [aside.received_eq, aside.stream_eq]
    exact complete place id partition registered

/-- A stream that has a subscriber was opened. -/
theorem opened_of_subscriber {w : World} {place : Nat} {subscriber : Subscriber}
    (registered : w.subscriber? ⟨source, place⟩ = some subscriber) :
    source.index < w.streams.length := by
  by_contra unopened
  unfold World.subscriber? at registered
  rw [World.stream_of_unopened unopened] at registered
  cases registered

/-- A value that comes to a stream is handed to every session that the stream feeds, unless something
hinders it. -/
theorem Settled.forward (hj : j.Settled source) (depth : Nat) (v : Value) (feed : Feed) :
    (j.deliver (depth + 1) v feed (.forward source)).1.Settled source := by
  by_cases hindered : (j.deliver (depth + 1) v feed (.forward source)).1.Hindered source
  · exact Or.inl hindered
  have complete : j.Complete source :=
    hj.resolve_left fun before => hindered (before.deliver (depth + 1) v feed (.forward source))
  refine Or.inr fun place id partition registered => ?_
  have extended := extends_deliver (depth + 1) v feed j (.forward source)
  rw [subscriber?_of_extends extended] at registered
  have opened := opened_of_subscriber registered
  have stored := World.Extends.store j.world source v
  have ⟨stream, _, handed⟩ := handAll_of_unhindered hindered
  have subscribed : ((j.storing source v).world.stream source).subscribers[place]? =
      some (.enter id partition) := by
    rw [← registered]
    exact congrArg (·[place]?) (stored.subscribers_eq source)
  -- all that was there before has been received, and now the new value
  have all := handed place id partition subscribed
  rw [Nat.zero_add] at all
  calc
    (j.deliver (depth + 1) v feed (.forward source)).1.received ⟨source, place⟩
        = j.received ⟨source, place⟩ ++ [v] := all
    _ = (j.world.stream source).values ++ [v] := by
          rw [complete place id partition registered]
    _ = ((j.storing source v).world.stream source).values := by
          rw [storing, World.stream_storing opened]
    _ = ((j.deliver (depth + 1) v feed (.forward source)).1.world.stream source).values :=
          congrArg Stream.values stream.symm

/-- A delivery loses nothing of a stream, wherever it goes, except that the subscriptions of the stream
itself are handed a value together. -/
theorem Settled.deliver (hj : j.Settled source) (depth : Nat) (v : Value) {feed : Feed}
    (elsewhere : ∀ id partition, subscriber = .enter id partition → feed.source ≠ source) :
    (j.deliver depth v feed subscriber).1.Settled source := by
  induction depth generalizing v j feed subscriber with
  | zero =>
      cases subscriber with
      | collect id => exact hj.aside (.collect j id v)
      | forward id => exact hj
      | enter id partition =>
          exact hj.aside (.enter_elsewhere (elsewhere id partition rfl) j id partition v _)
      | process id => exact hj
  | succ depth ih =>
      cases subscriber with
      | collect id => exact hj.aside (.collect j id v)
      | enter id partition =>
          exact hj.aside (.enter_elsewhere (elsewhere id partition rfl) j id partition v _)
      | process id =>
          exact List.foldlRecOn (motive := Settled source) _ _ (hj.aside (.hand j id v))
            fun _ hu e _ => ih hu e.2 nofun
      | forward id =>
          by_cases here : id = source
          · subst here
            exact hj.forward depth v feed
          · -- the subscriptions of another stream, one after the other
            refine eachUntilError_keeps (P := Settled source) ?_ (hj.aside (.store here j v))
            rintro u ⟨next, place⟩ - hu
            have handed : (u.deliver depth v ⟨id, place⟩ next).1.Settled source :=
              ih hu v fun _ _ _ => here
            exact handed.aside (Aside.refl source _).watch.heed

theorem Settled.publish (hj : j.Settled source) (id : SourceId) (v : Value) :
    (j.publish id v).1.Settled source := by
  rw [publish_eq_deliver j id v (j.nextFeed id)]
  exact hj.deliver _ v nofun

/-! ## Subscribing -/

/-- Nothing came in by a subscription before it was made. -/
theorem Faithful.fresh (faithful : j.Faithful) (id : SourceId) :
    j.received (j.nextFeed id) = [] := by
  unfold received via
  rw [List.map_eq_nil_iff, List.filter_eq_nil_iff]
  intro e there fed
  have handed := (faithful.handed e there _ (of_decide_eq_true fed)).1
  rw [subscriber?_nextFeed] at handed
  cases handed

/-- A session that subscribes to a stream receives the values that are stored, in order. -/
theorem replay_taken {feed : Feed} {id : SessionId} {partition : Nat} {values : List Value}
    (taken : (eachUntilError (replay feed (.enter id partition)) j values).2 = none) :
    let j' := (eachUntilError (replay feed (.enter id partition)) j values).1
    j'.world.stream source = j.world.stream source ∧
    j'.received feed = j.received feed ++ values ∧
    ∀ other, other ≠ feed → j'.received other = j.received other := by
  induction values generalizing j with
  | nil => exact ⟨rfl, (List.append_nil _).symm, fun _ _ => rfl⟩
  | cons v rest ih =>
      rcases outcome : replay feed (.enter id partition) j v with ⟨next, _ | e⟩
      · have entered : j.enter id partition v (j.owner feed) (some feed) = (next, none) := by
          have here : (replay feed (.enter id partition) j v).2 = none := congrArg Prod.snd outcome
          rw [replay, watch_error] at here
          rw [replay, watch_of_taken here, deliver_enter] at outcome
          exact outcome
        have here := received_enter (congrArg Prod.snd entered)
        have stream := stream_enter j id partition v (j.owner feed) (some feed) source
        rw [entered] at here stream
        simp only [eachUntilError, outcome] at taken ⊢
        obtain ⟨stream', received, others⟩ := ih taken
        refine ⟨stream'.trans stream, ?_, ?_⟩
        · rw [received, here, if_pos rfl, List.append_assoc]
          rfl
        · intro other apart
          rw [others other apart, here, if_neg apart, List.append_nil]
      · simp [eachUntilError, outcome] at taken

theorem values_registering (j : Journal) (id : SourceId) (subscriber : Subscriber)
    (source : SourceId) :
    ((j.registering id subscriber).world.stream source).values = (j.world.stream source).values := by
  unfold registering World.registering
  rw [World.stream_modifyStream]
  split <;> rfl

/-- A subscriber that is no session, or one of another stream, has nothing to receive. -/
theorem Complete.registering (complete : j.Complete source) {id : SourceId}
    (elsewhere : ∀ other partition, subscriber = .enter other partition → id ≠ source) :
    (j.registering id subscriber).Complete source := by
  intro place other partition registered
  rw [values_registering]
  rw [subscriber?_registering] at registered
  split at registered
  · rename_i here
    have same : source = id := congrArg Feed.source here.1
    exact absurd same.symm (elsewhere other partition (Option.some.inj registered))
  · exact complete place other partition registered

/-- A session that subscribes to a stream has received what is stored, or refused some of it. -/
theorem Complete.subscribe (complete : j.Complete source)
    (fresh : j.received (j.nextFeed source) = []) (id : SessionId) (partition : Nat) :
    (j.subscribe source (.enter id partition)).1.Settled source := by
  let started := j.registering source (.enter id partition)
  let after := (j.subscribe source (.enter id partition)).1
  by_cases taken : (j.subscribe source (.enter id partition)).2 = none
  · have replayed : after.world.stream source = started.world.stream source ∧
        after.received (j.nextFeed source) =
          started.received (j.nextFeed source) ++ (j.world.stream source).values ∧
        ∀ other, other ≠ j.nextFeed source → after.received other = started.received other :=
      replay_taken taken
    rcases replayed with ⟨stream, new, others⟩
    have nothing : started.received (j.nextFeed source) = [] := fresh
    refine Or.inr fun place other number registered => ?_
    have before : started.world.subscriber? ⟨source, place⟩ = some (.enter other number) :=
      (congrArg (fun s : Stream => s.subscribers[place]?) stream).symm.trans registered
    show after.received ⟨source, place⟩ = (after.world.stream source).values
    rw [stream, values_registering]
    rw [subscriber?_registering] at before
    split at before
    · -- the new subscription had received nothing, and has now received all
      rename_i here
      rw [here.1, new, nothing, List.nil_append]
    · have older : (⟨source, place⟩ : Feed) ≠ j.nextFeed source := by
        intro here
        rw [here, subscriber?_nextFeed] at before
        cases before
      rw [others _ older]
      exact complete place other number before
  · have noted : ∀ u, ∀ v ∈ (j.world.stream source).values,
        (replay (j.nextFeed source) (.enter id partition) u v).2 ≠ none →
          (replay (j.nextFeed source) (.enter id partition) u v).1.Hindered source := by
      intro u v _ refused
      rw [replay, watch_error] at refused
      exact Or.inl ⟨(j.world.stream source).subscribers.length, mem_refusals_watch refused⟩
    exact Or.inl (eachUntilError_error (P := Hindered source) noted taken)

/-- A new subscription is handed what is stored, or refuses some of it; the other streams, and the
other subscriptions, lose nothing. -/
theorem Settled.subscribe (hj : j.Settled source) {id : SourceId}
    (fresh : j.received (j.nextFeed id) = []) (subscriber : Subscriber) :
    (j.subscribe id subscriber).1.Settled source := by
  rcases hj with hindered | complete
  · exact Or.inl ((Hindered.kept source).subscribe hindered)
  · by_cases own : id = source ∧ ∃ other partition, subscriber = .enter other partition
    · rcases own with ⟨rfl, other, partition, rfl⟩
      exact complete.subscribe fresh other partition
    · -- a collector or a stream receives nothing itself, and other streams are not concerned
      have elsewhere : ∀ other partition, subscriber = .enter other partition → id ≠ source :=
        fun other partition feeds here => own ⟨here, other, partition, feeds⟩
      refine eachUntilError_keeps (P := Settled source) ?_ (Or.inr (complete.registering elsewhere))
      intro u v _ hu
      have handed : (u.deliver u.world.settleBound v (j.nextFeed id) subscriber).1.Settled source :=
        hu.deliver _ v elsewhere
      exact handed.aside (Aside.watch (.refl source _))

/-! ## Acts -/

theorem Aside.of_streams (streams : j'.world.streams = j.world.streams)
    (entries : j'.entries = j.entries) (hindered : j.Hindered source → j'.Hindered source) :
    Aside source j j' where
  stream_eq := by
    unfold World.stream
    rw [streams]
  via_eq _ := by
    unfold via
    rw [entries]
  hindered := hindered

theorem changeMemory_streams (w : World) (id : SessionId) (f : WorkingMemory → WorkingMemory) :
    (w.changeMemory id f).streams = w.streams := by
  unfold World.changeMemory
  split <;> rfl

theorem Settled.act (hj : j.Settled source) (faithful : j.Faithful) (a : Act) :
    (j.act a).Settled source := by
  cases a with
  | openSession defaultEntryPoint types => exact hj.aside (.of_streams rfl rfl fun before => before)
  | openStream =>
      exact hj.aside ⟨World.stream_openStream j.world source, fun _ => rfl, fun before => before⟩
  | openCollector limit message => exact hj.aside (.of_streams rfl rfl fun before => before)
  | openProcessor reactions =>
      exact hj.aside (.of_streams rfl rfl fun before => before)
  | newFact typeName fields => exact hj.aside (.of_streams rfl rfl fun before => before)
  | publish id v => exact hj.publish id v
  | subscribe id reader =>
      have fresh := faithful.fresh id
      cases reader with
      | collector other => exact hj.subscribe fresh (.collect other)
      | stream other => exact hj.subscribe fresh (.forward other)
      | processor other => exact hj.subscribe fresh (.process other)
      | entryPoint other name =>
          let declared := (j.declare other name).2
          let owned : Journal :=
            { declared with owner := Function.update j.owner (declared.nextFeed id) name }
          have before : owned.Settled source := hj.aside (.of_streams rfl rfl fun before => before)
          exact before.subscribe fresh (.enter other (j.declare other name).1)
  | declare id name => exact hj.aside (.of_streams rfl rfl fun before => before)
  | insert id entryPoint v =>
      let name := entryPoint.getD (j.world.session id).defaultEntryPoint
      have declared : Aside source j (j.declare id name).2 := .of_streams rfl rfl fun before => before
      have unfed : ∀ place, (none : Option Feed) ≠ some ⟨source, place⟩ := nofun
      exact hj.aside (declared.trans (.enter unfed _ id _ v name))
  | update id h v => exact hj.aside (.of_streams (changeMemory_streams _ _ _) rfl fun before => before)
  | retract id h => exact hj.aside (.of_streams (changeMemory_streams _ _ _) rfl fun before => before)
  | setGlobal id name v =>
      refine hj.aside (.of_streams ?_ rfl fun before => before)
      show (j.world.applyWiring id (.setGlobal name v)).1.streams = j.world.streams
      simp only [World.applyWiring]
      split <;> rfl

section Registered

variable {feed : Feed} {id : SessionId} {partition : Nat}

end Registered

/-! ## All calls -/

end Journal
end RuleEngine
