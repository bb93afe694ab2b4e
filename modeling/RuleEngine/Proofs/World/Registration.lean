import RuleEngine.Proofs.World.Handing

/-!
# A subscription that fails stays registered

Subscribing registers the subscriber and then replays the earlier values to it.  A refusal ends the
replay, but it does not take the registration back.  So a subscription that fails leaves the stream
with one subscriber more, and the refusal comes back later: a value that is published is handed to the
earlier subscribers as if nothing had happened, and then also to the one that refused.  Whoever tries
again is registered twice.

`replayTo` is the replay alone.  Registering first and registering last lead to the same world, because
the replay of a subscriber that does not lead back never looks at the stream.
-/

namespace RuleEngine
namespace World

/-! ## Loops that fail -/

section Loops

variable {α : Type} {xs ys : List α}

theorem eachUntilError_append {σ : Type} {f : σ → α → σ × Option Error} {s : σ} :
    eachUntilError f s (xs ++ ys) =
      match eachUntilError f s xs with
      | (s', none) => eachUntilError f s' ys
      | (s', some e) => (s', some e) := by
  induction xs generalizing s with
  | nil => rfl
  | cons x rest ih =>
      rcases outcome : f s x with ⟨s', _ | e⟩
      · simpa only [List.cons_append, eachUntilError, outcome] using ih
      · simp only [List.cons_append, eachUntilError, outcome]

theorem eachUntilError_singleton {σ : Type} {f : σ → α → σ × Option Error} {s : σ} {x : α} :
    eachUntilError f s [x] = f s x := by
  rcases outcome : f s x with ⟨s', _ | e⟩
  all_goals simp only [eachUntilError, outcome]

/-- A loop that fails has handed over elements that were taken and then the one that was refused. -/
theorem answers_of_error {f : World → α → Outcome} {w : World} {e : Error}
    (failed : (eachUntilError f w xs).2 = some e) :
    ∃ taken x rest, xs = taken ++ x :: rest ∧
      answers f w xs = taken.map (fun y => (y, true)) ++ [(x, false)] := by
  induction xs generalizing w with
  | nil => cases failed
  | cons x rest ih =>
      rw [answers_cons]
      rcases outcome : f w x with ⟨next, _ | e'⟩
      · simp only [eachUntilError, outcome] at failed
        rcases ih failed with ⟨taken, y, later, rfl, noted⟩
        exact ⟨x :: taken, y, later, rfl, congrArg ((x, true) :: ·) noted⟩
      · exact ⟨[], x, rest, rfl, rfl⟩

end Loops

/-! ## Deliveries elsewhere -/

variable {w : World} {id : SourceId} {subscriber : Subscriber}

theorem modifyStream_comm {other : SourceId} (apart : other ≠ id) (f g : Stream → Stream) :
    (w.modifyStream id f).modifyStream other g = (w.modifyStream other g).modifyStream id f := by
  have index : id.index ≠ other.index := by
    intro same
    exact apart (by cases id; cases other; simp_all)
  unfold modifyStream
  simp only [List.modify_modify_ne f g _ index]

theorem collect_modifyStream (f : Stream → Stream) (other : CollectorId) (v : Value) :
    (w.modifyStream id f).collect other v =
      ((w.collect other v).1.modifyStream id f, (w.collect other v).2) := by
  have same : (w.modifyStream id f).collector? other = w.collector? other := rfl
  unfold collect
  rw [same]
  split
  · rfl
  · split <;> rfl

theorem enter_modifyStream (f : Stream → Stream) (other : SessionId) (partition : Nat) (v : Value) :
    (w.modifyStream id f).enter other partition v =
      ((w.enter other partition v).1.modifyStream id f, (w.enter other partition v).2) := by
  have same : (w.modifyStream id f).session other = w.session other := rfl
  unfold enter
  rw [same]
  split <;> rfl

/-- A delivery that does not reach a stream goes the same way whatever the stream is. -/
theorem deliver_modifyStream (depth : Nat) (v : Value) (f : Stream → Stream)
    (apart : ¬ w.Reaches id subscriber) :
    deliver depth v (w.modifyStream id f) subscriber =
      ((deliver depth v w subscriber).1.modifyStream id f, (deliver depth v w subscriber).2) := by
  induction depth generalizing v w subscriber with
  | zero =>
      cases subscriber with
      | collect other => exact collect_modifyStream f other v
      | forward other => rfl
      | enter other partition => exact enter_modifyStream f other partition v
      | process processor => rfl
  | succ depth ih =>
      cases subscriber with
      | collect other => exact collect_modifyStream f other v
      | enter other partition => exact enter_modifyStream f other partition v
      | process processor =>
          -- what the processor publishes does not reach the stream either
          refine Prod.ext ?_ rfl
          refine foldl_view (P := Undisturbed id w) (·.modifyStream id f) ?_ (.hand w processor v)
          intro u e listed undisturbed
          have next_apart := undisturbed.not_reaches_published apart listed
          have same := congrArg Prod.fst (ih e.2 next_apart)
          exact ⟨same, undisturbed.trans (.deliver depth e.2 next_apart)⟩
      | forward other =>
          have elsewhere : other ≠ id := by
            rintro rfl
            exact apart .here
          have stored := Undisturbed.store (w := w) elsewhere v
          have readers : (((w.storing other v).modifyStream id f).stream other).subscribers =
              ((w.storing other v).stream other).subscribers := by
            rw [stream_modifyStream, if_neg fun here => elsewhere here.1.symm]
          -- the subscribers of the other stream do not reach the stream either
          have loop :
              eachUntilError (deliver depth v) ((w.storing other v).modifyStream id f)
                  (((w.storing other v).stream other).subscribers.map fun next => next) =
                ((deliver (depth + 1) v w (.forward other)).1.modifyStream id f,
                  (deliver (depth + 1) v w (.forward other)).2) := by
            refine eachUntilError_view (P := Undisturbed id w) (·.modifyStream id f)
              (fun next => next) ?_ stored
            intro u next registered undisturbed
            have next_apart :=
              undisturbed.not_reaches_subscriber apart (stored.subscribers_eq other ▸ registered)
            exact ⟨ih v next_apart, undisturbed.trans (.deliver depth v next_apart)⟩
          rw [List.map_id'] at loop
          calc
            deliver (depth + 1) v (w.modifyStream id f) (.forward other)
                = eachUntilError (deliver depth v) ((w.storing other v).modifyStream id f)
                    (((w.storing other v).modifyStream id f).stream other).subscribers := by
                  rw [storing, ← modifyStream_comm elsewhere]
                  rfl
            _ = eachUntilError (deliver depth v) ((w.storing other v).modifyStream id f)
                    ((w.storing other v).stream other).subscribers := by rw [readers]
            _ = _ := loop

/-! ## Registering first or last -/

/-- The replay alone: a subscriber is handed the earlier values of a stream. -/
def replayTo (w : World) (id : SourceId) (subscriber : Subscriber) : Outcome :=
  eachUntilError (replay subscriber) w (w.stream id).values

theorem Undisturbed.replayTo (apart : ¬ w.Reaches id subscriber) :
    Undisturbed id w (w.replayTo id subscriber).1 := by
  refine eachUntilError_keeps (P := Undisturbed id w) ?_ (.of_streams rfl rfl)
  intro u v _ undisturbed
  exact undisturbed.trans (.deliver _ v fun reaches => apart (undisturbed.reaches reaches))

/-- Subscribing leaves what the replay leaves, and the registration, also when the replay is cut short
by a refusal. -/
theorem subscribe_eq_replayTo (apart : ¬ w.Reaches id subscriber) :
    w.subscribe id subscriber =
      ((w.replayTo id subscriber).1.registering id subscriber, (w.replayTo id subscriber).2) := by
  have loop :
      eachUntilError (replay subscriber) (w.registering id subscriber)
          ((w.stream id).values.map fun v => v) =
        ((w.replayTo id subscriber).1.registering id subscriber,
          (w.replayTo id subscriber).2) := by
    refine eachUntilError_view (P := Undisturbed id w) (·.registering id subscriber) (fun v => v) ?_
      (.of_streams rfl rfl)
    -- the replay never comes to the stream, so it goes the same way with the registration
    intro u v _ undisturbed
    have still_apart : ¬ u.Reaches id subscriber := fun reaches => apart (undisturbed.reaches reaches)
    have bound : (u.registering id subscriber).settleBound = u.settleBound := by
      simp only [settleBound, registering, modifyStream, List.length_modify]
    refine ⟨?_, undisturbed.trans (.deliver _ v still_apart)⟩
    rw [replay, bound]
    exact deliver_modifyStream _ v _ still_apart
  rw [List.map_id'] at loop
  exact loop

theorem stream_replayTo_registering (opened : id.index < w.streams.length)
    (apart : ¬ w.Reaches id subscriber) :
    (((w.replayTo id subscriber).1.registering id subscriber).stream id) =
      { w.stream id with subscribers := (w.stream id).subscribers ++ [subscriber] } := by
  have undisturbed := Undisturbed.replayTo apart
  rw [stream_registering (undisturbed.length_eq ▸ opened), undisturbed.stream_eq]

/-- The world with other subscriptions of a stream. -/
def enlisting (w : World) (id : SourceId) (change : List Subscriber → List Subscriber) : World :=
  w.modifyStream id fun s => { s with subscribers := change s.subscribers }

/-- The world with a subscriber registered at a place, so that the subscribers from there on have come
after it. -/
def registeringAt (w : World) (id : SourceId) (place : Nat) (subscriber : Subscriber) : World :=
  w.enlisting id fun subscribers => subscribers.take place ++ subscriber :: subscribers.drop place

theorem subscribers_enlisting (opened : id.index < w.streams.length)
    (change : List Subscriber → List Subscriber) :
    ((w.enlisting id change).stream id).subscribers = change (w.stream id).subscribers := by
  rw [enlisting, stream_modifyStream, if_pos ⟨rfl, opened⟩]

/-- A value that is published is handed to the first subscribers as if nothing had changed about the
later ones, and, unless one of the first refuses it, to the later ones as they are now. -/
theorem publish_enlisting (opened : id.index < w.streams.length)
    (change : List Subscriber → List Subscriber) {before after now : List Subscriber}
    (listed : (w.stream id).subscribers = before ++ after)
    (changed : change (before ++ after) = before ++ now) (v : Value)
    (apart : ∀ earlier ∈ before, ¬ w.Reaches id earlier) :
    (w.enlisting id change).publish id v =
      match eachUntilError (w.handOn v) (w.storing id v) before with
      | (u, none) => eachUntilError (w.handOn v) (u.enlisting id change) now
      | (u, some e) => (u.enlisting id change, some e) := by
  have bound : (w.enlisting id change).handOn v = w.handOn v := by
    simp only [handOn, settleBound, enlisting, modifyStream, List.length_modify]
  have stored : (w.enlisting id change).storing id v = (w.storing id v).enlisting id change := by
    simp only [storing, enlisting, modifyStream, List.modify_modify_eq]
    rfl
  have readers : (((w.storing id v).enlisting id change).stream id).subscribers = before ++ now := by
    have opened' : id.index < (w.storing id v).streams.length := by
      rw [storing, modifyStream, List.length_modify]
      exact opened
    rw [subscribers_enlisting opened', ← changed, ← listed]
    exact congrArg change ((Fed.store w id v).subscribers_eq id)
  have loop :
      eachUntilError (w.handOn v) ((w.storing id v).enlisting id change)
          (before.map fun next => next) =
        ((eachUntilError (w.handOn v) (w.storing id v) before).1.enlisting id change,
          (eachUntilError (w.handOn v) (w.storing id v) before).2) := by
    refine eachUntilError_view (P := Undisturbed id (w.storing id v)) (·.enlisting id change)
      (fun next => next) ?_ (.of_streams rfl rfl)
    intro u next registered undisturbed
    have next_apart : ¬ u.Reaches id next := by
      have subscribers := (Fed.store w id v).subscribers_eq
      intro reaches
      apply apart next registered
      exact (undisturbed.reaches reaches).of_subscribers (fun other _ => subscribers other)
        fun _ => rfl
    exact ⟨deliver_modifyStream _ v _ next_apart, undisturbed.trans (.deliver _ v next_apart)⟩
  rw [List.map_id'] at loop
  rw [publish_eq, bound, stored, readers, eachUntilError_append, loop]
  rcases eachUntilError (w.handOn v) (w.storing id v) before with ⟨u, _ | e⟩ <;> rfl

/-- The last subscriber has its turn after all the others. -/
theorem publish_registering (opened : id.index < w.streams.length) (subscriber : Subscriber)
    (v : Value) (apart : ∀ earlier ∈ (w.stream id).subscribers, ¬ w.Reaches id earlier) :
    (w.registering id subscriber).publish id v =
      match w.publish id v with
      | (u, none) => w.handOn v (u.registering id subscriber) subscriber
      | (u, some e) => (u.registering id subscriber, some e) := by
  have published := publish_enlisting opened (· ++ [subscriber]) (List.append_nil _).symm
    (congrArg (· ++ [subscriber]) (List.append_nil _)) v apart
  have readers : ((w.storing id v).stream id).subscribers = (w.stream id).subscribers :=
    (Fed.store w id v).subscribers_eq id
  refine published.trans ?_
  rw [publish_eq, readers]
  rcases eachUntilError (w.handOn v) (w.storing id v) (w.stream id).subscribers with ⟨u, _ | e⟩
  · exact eachUntilError_singleton
  · rfl

/-- A value that is published is handed to some subscribers, and then, unless one of them refuses it, to
those that come after them. -/
theorem publish_before_after {before after : List Subscriber}
    (listed : (w.stream id).subscribers = before ++ after) (v : Value) :
    w.publish id v =
      match eachUntilError (w.handOn v) (w.storing id v) before with
      | (u, none) => eachUntilError (w.handOn v) u after
      | (u, some e) => (u, some e) := by
  have readers : ((w.storing id v).stream id).subscribers = before ++ after :=
    ((Fed.store w id v).subscribers_eq id).trans listed
  rw [publish_eq, readers, eachUntilError_append]
  rcases eachUntilError (w.handOn v) (w.storing id v) before with ⟨u, _ | e⟩ <;> rfl

/-- A subscriber in the middle has its turn after those before it, and those after it have theirs only
when it takes the value. -/
theorem publish_registeringAt (opened : id.index < w.streams.length) {before after : List Subscriber}
    (listed : (w.stream id).subscribers = before ++ after) (subscriber : Subscriber) (v : Value)
    (apart : ∀ earlier ∈ before, ¬ w.Reaches id earlier) :
    let first := eachUntilError (w.handOn v) (w.storing id v) before
    let answer := w.handOn v (first.1.registeringAt id before.length subscriber) subscriber
    (w.registeringAt id before.length subscriber).publish id v =
      match first.2, answer.2 with
      | none, none => eachUntilError (w.handOn v) answer.1 after
      | none, some e => (answer.1, some e)
      | some e, _ => (first.1.registeringAt id before.length subscriber, some e) := by
  have placed : (before ++ after).take before.length ++
      subscriber :: (before ++ after).drop before.length = before ++ subscriber :: after := by
    rw [List.take_left, List.drop_left]
  refine (publish_enlisting opened _ listed placed v apart).trans ?_
  rcases eachUntilError (w.handOn v) (w.storing id v) before with ⟨u, _ | e⟩
  · rcases outcome : w.handOn v (u.registeringAt id before.length subscriber) subscriber with
      ⟨u', _ | e⟩
    all_goals
      rw [registeringAt] at outcome
      simp only [eachUntilError, outcome]
  · rfl

/-! ## What deliveries leave of the streams -/

/-- Streams have only got longer, and each has its subscribers. -/
structure Extends (w w' : World) : Prop where
  subscribers_eq : ∀ source, (w'.stream source).subscribers = (w.stream source).subscribers
  values_extend : ∀ source, (w.stream source).values <+: (w'.stream source).values

theorem Extends.refl (w : World) : Extends w w :=
  ⟨fun _ => rfl, fun _ => List.prefix_refl _⟩

theorem Extends.trans {w' w'' : World} (first : Extends w w') (second : Extends w' w'') :
    Extends w w'' where
  subscribers_eq source := (second.subscribers_eq source).trans (first.subscribers_eq source)
  values_extend source := (first.values_extend source).trans (second.values_extend source)

theorem Extends.of_undisturbed {w' : World} (undisturbed : ∀ source, Undisturbed source w w') :
    Extends w w' where
  subscribers_eq source := (undisturbed source).subscribers_eq source
  values_extend source := by
    have same := congrArg Stream.values (undisturbed source).stream_eq
    exact same ▸ List.prefix_refl _

theorem Extends.store (w : World) (id : SourceId) (v : Value) : Extends w (w.storing id v) where
  subscribers_eq := (Fed.store w id v).subscribers_eq
  values_extend source := by
    rw [storing, stream_modifyStream]
    split
    · exact List.prefix_append _ _
    · exact List.prefix_refl _

theorem Extends.kept (w : World) : KeptByDelivery (fun _ _ => True) (Extends w) where
  store w' id v extended := extended.trans (.store w' id v)
  collect w' id v extended := extended.trans (.of_undisturbed fun _ => .collect w' id v)
  hand w' id v extended := extended.trans (.of_undisturbed fun _ => .hand w' id v)
  enter w' id partition v _ extended :=
    extended.trans (.of_undisturbed fun _ => .enter w' id partition v)
  subscribed _ _ _ _ _ _ := trivial

theorem Extends.subscribe (w : World) (id : SourceId) (subscriber : Subscriber) :
    Extends (w.registering id subscriber) (w.subscribe id subscriber).1 :=
  (Extends.kept _).subscribe (fun _ _ _ => trivial) (.refl _)

theorem subscribers_subscribe (opened : id.index < w.streams.length) :
    ((w.subscribe id subscriber).1.stream id).subscribers =
      (w.stream id).subscribers ++ [subscriber] := by
  rw [(Extends.subscribe w id subscriber).subscribers_eq, stream_registering opened]

/-! ## After a subscription that failed -/

/-- A subscription that fails has handed over some earlier values that were taken and then the one that
was refused, and no more.  It leaves the subscriber registered, whoever it is; when the subscriber does
not lead back to the stream, the rest of the stream is unchanged, and the world is the one that the
replay alone leaves, with the registration.

From then on a value that is published is handed on as it would be without the registration and then,
unless it was refused before, to the subscriber.  So while nobody else has subscribed, publishing
succeeds or fails as it would without the failed subscription exactly when it fails anyway or the
subscriber now takes the value.  Those that have subscribed since come after the subscriber: when it
refuses the value, publishing ends there, and none of them is handed the value.  A second attempt
registers the subscriber a second time. -/
theorem failed_subscription_registers (w : World) (id : SourceId)
    (opened : id.index < w.streams.length) (subscriber : Subscriber) (e : Error)
    (failed : (w.subscribe id subscriber).2 = some e) :
    let left := (w.subscribe id subscriber).1
    (∃ taken v rest, (w.stream id).values = taken ++ v :: rest ∧
      answers (replay subscriber) (w.registering id subscriber) (w.stream id).values =
        taken.map (fun y => (y, true)) ++ [(v, false)]) ∧
    (left.stream id).subscribers = (w.stream id).subscribers ++ [subscriber] ∧
    (w.stream id).values <+: (left.stream id).values ∧
    (¬ w.Reaches id subscriber →
      (w.replayTo id subscriber).2 = some e ∧
        (w.replayTo id subscriber).1.stream id = w.stream id ∧
        left = (w.replayTo id subscriber).1.registering id subscriber ∧
        (left.stream id).values = (w.stream id).values) ∧
    ∀ later : World, id.index < later.streams.length →
      (((later.registering id subscriber).subscribe id subscriber).1.stream id).subscribers =
        (later.stream id).subscribers ++ [subscriber, subscriber] ∧
      ((∀ earlier ∈ (later.stream id).subscribers, ¬ later.Reaches id earlier) → ∀ v,
        let without := later.publish id v
        let answer := later.handOn v (without.1.registering id subscriber) subscriber
        (later.registering id subscriber).publish id v =
          (match without.2 with
          | none => answer
          | some refusal => (without.1.registering id subscriber, some refusal)) ∧
        (((later.registering id subscriber).publish id v).2 = without.2 ↔
          without.2 ≠ none ∨ answer.2 = none)) ∧
      ∀ before after, (later.stream id).subscribers = before ++ after →
        (∀ earlier ∈ before, ¬ later.Reaches id earlier) → ∀ v,
        let stale := later.registeringAt id before.length subscriber
        let first := eachUntilError (later.handOn v) (later.storing id v) before
        let answer := later.handOn v (first.1.registeringAt id before.length subscriber) subscriber
        (stale.stream id).subscribers = before ++ subscriber :: after ∧
        later.publish id v =
          (match first with
          | (u, none) => eachUntilError (later.handOn v) u after
          | (u, some refusal) => (u, some refusal)) ∧
        stale.publish id v =
          match first.2, answer.2 with
          | none, none => eachUntilError (later.handOn v) answer.1 after
          | none, some refusal => (answer.1, some refusal)
          | some refusal, _ => (first.1.registeringAt id before.length subscriber, some refusal) := by
  intro left
  refine ⟨answers_of_error failed, subscribers_subscribe opened, ?_, ?_, ?_⟩
  · have extended := (Extends.subscribe w id subscriber).values_extend id
    rw [stream_registering opened] at extended
    exact extended
  · intro apart
    have same := subscribe_eq_replayTo apart
    have world : left = (w.replayTo id subscriber).1.registering id subscriber :=
      congrArg Prod.fst same
    have refused : (w.replayTo id subscriber).2 = some e := by
      rw [same] at failed
      exact failed
    refine ⟨refused, (Undisturbed.replayTo apart).stream_eq, world, ?_⟩
    rw [world, stream_replayTo_registering opened apart]
  · intro later opened'
    have registered := stream_registering opened' subscriber
    have still_opened : id.index < (later.registering id subscriber).streams.length := by
      rw [registering, modifyStream, List.length_modify]
      exact opened'
    refine ⟨?_, ?_, ?_⟩
    · rw [subscribers_subscribe still_opened, registered, List.append_assoc]
      rfl
    · intro apart v without answer
      have published := publish_registering opened' subscriber v apart
      rcases outcome : later.publish id v with ⟨u, _ | refusal⟩
      · have accepted : without = (u, none) := outcome
        rw [outcome] at published
        rw [published]
        simp [answer, accepted]
      · have refused : without = (u, some refusal) := outcome
        rw [outcome] at published
        rw [published]
        simp [refused]
    · intro before after listed apart v stale first answer
      have published := publish_before_after listed v
      have readers := subscribers_enlisting opened' fun subscribers =>
        subscribers.take before.length ++ subscriber :: subscribers.drop before.length
      refine ⟨?_, published, publish_registeringAt opened' listed subscriber v apart⟩
      rw [listed, List.take_left, List.drop_left] at readers
      exact readers

/-- A stream that holds one value, and a collector that takes nothing. -/
def oneStored : World where
  sessions := []
  streams := [⟨[.int 1], []⟩]
  collectors := [⟨some 0, "rejected", []⟩]
  processors := []
  nextInstance := 0

theorem refusing_collector_registered :
    (oneStored.subscribe ⟨0⟩ (.collect ⟨0⟩)).2 = some (Cause.action "rejected") ∧
    (oneStored.stream ⟨0⟩).subscribers = [] ∧
    ((oneStored.subscribe ⟨0⟩ (.collect ⟨0⟩)).1.stream ⟨0⟩).subscribers = [.collect ⟨0⟩] ∧
    (oneStored.publish ⟨0⟩ (.int 2)).2 = none ∧
    ((oneStored.subscribe ⟨0⟩ (.collect ⟨0⟩)).1.publish ⟨0⟩ (.int 2)).2 ≠ none := by
  have failed : (oneStored.subscribe ⟨0⟩ (.collect ⟨0⟩)).2 = some (Cause.action "rejected") := rfl
  have ⟨_, registered, _, alone, later⟩ :=
    failed_subscription_registers oneStored ⟨0⟩ (by decide) (.collect ⟨0⟩) _ failed
  have ⟨_, _, left, _⟩ := alone (not_reaches_collect _ _ _)
  have ⟨_, published, _⟩ := later (oneStored.replayTo ⟨0⟩ (.collect ⟨0⟩)).1 (by decide)
  refine ⟨failed, rfl, registered, rfl, ?_⟩
  intro accepted
  rw [left] at accepted
  have same := (published nofun (.int 2)).2.1 accepted
  rcases same with refused | taken
  · exact refused rfl
  · cases taken

end World
end RuleEngine
