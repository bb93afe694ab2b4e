import RuleEngine.Action.Program
import RuleEngine.Proofs.Memory.Lookup

/-!
# What a delivery and a program can change

A delivery changes the world by four small changes: a stream stores a value, a collector takes one, a
processor is handed one, and a session takes one in.  A program changes it by deliveries, and by making
facts and streams.  Whatever the small changes keep is therefore kept as a whole; the inductions over
subscribers, over the depth of a delivery and over programs are made here once.

For sessions this means that they are only fed: objects are taken into their memories, each through
a partition that some stream feeds, and nothing else about them changes.
-/

namespace RuleEngine
namespace World

/-! ## Invariants of deliveries -/

/-- A property that every small change of a delivery keeps, when sessions take in only through the
partitions that are fed. -/
structure KeptByDelivery (feeds : SessionId → Nat → Prop) (P : World → Prop) : Prop where
  store : ∀ w id v, P w → P (w.modifyStream id fun s => { s with values := s.values ++ [v] })
  collect : ∀ w id v, P w → P (w.collect id v).1
  hand : ∀ w id v, P w → P (w.hand id v)
  enter : ∀ w id partition v, feeds id partition → P w → P (w.enter id partition v).1
  subscribed : ∀ w, P w → ∀ source id partition,
    .enter id partition ∈ (w.stream source).subscribers → feeds id partition

theorem eachUntilError_keeps {σ α : Type} {P : σ → Prop} {f : σ → α → σ × Option Error}
    {xs : List α} (step : ∀ s, ∀ x ∈ xs, P s → P (f s x).1) {s : σ} (hs : P s) :
    P (eachUntilError f s xs).1 := by
  induction xs generalizing s with
  | nil => exact hs
  | cons x rest ih =>
      have ⟨first, later⟩ := And.intro (step s x List.mem_cons_self hs)
        fun s y hy => step s y (List.mem_cons_of_mem _ hy)
      unfold eachUntilError
      split
      · rename_i s' same
        rw [same] at first
        exact ih later first
      · rename_i s' e same
        rw [same] at first
        exact first

/-- Folds that go through the same elements end in states that belong together, when each step of the one
is the view of a step of the other. -/
theorem foldl_view {σ τ α : Type} {P : τ → Prop} (view : τ → σ) {f : σ → α → σ} {g : τ → α → τ}
    {xs : List α} (step : ∀ t, ∀ x ∈ xs, P t → f (view t) x = view (g t x) ∧ P (g t x)) {t : τ}
    (ht : P t) : xs.foldl f (view t) = view (xs.foldl g t) := by
  induction xs generalizing t with
  | nil => rfl
  | cons x rest ih =>
      have ⟨same, kept⟩ := step t x List.mem_cons_self ht
      rw [List.foldl_cons, List.foldl_cons, same]
      exact ih (fun t y hy => step t y (List.mem_cons_of_mem _ hy)) kept

/-- Two loops that go through the same elements end in states that belong together, and with the same
error, when each step of the one is the view of a step of the other. -/
theorem eachUntilError_view {σ τ α β : Type} {P : τ → Prop} (view : τ → σ) (element : β → α)
    {f : σ → α → σ × Option Error} {g : τ → β → τ × Option Error} {xs : List β}
    (step : ∀ t, ∀ x ∈ xs, P t →
      f (view t) (element x) = (view (g t x).1, (g t x).2) ∧ P (g t x).1)
    {t : τ} (ht : P t) :
    eachUntilError f (view t) (xs.map element) =
      (view (eachUntilError g t xs).1, (eachUntilError g t xs).2) := by
  induction xs generalizing t with
  | nil => rfl
  | cons x rest ih =>
      have ⟨same, kept⟩ := step t x List.mem_cons_self ht
      have later := ih (fun t y hy => step t y (List.mem_cons_of_mem _ hy)) kept
      rcases outcome : g t x with ⟨t', _ | e⟩
      · rw [outcome] at same later
        simp only [List.map_cons, eachUntilError, same, outcome]
        exact later
      · rw [outcome] at same
        simp only [List.map_cons, eachUntilError, same, outcome]

/-- What one element brings about, when it does not fail, and every element keeps, holds at the end. -/
theorem eachUntilError_establishes {α : Type} {P : World → Prop} {f : World → α → Outcome}
    {xs : List α} {x : α} (there : x ∈ xs) (establish : ∀ w, (f w x).2 = none → P (f w x).1)
    (keep : ∀ w y, P w → P (f w y).1) {w w' : World} (done : eachUntilError f w xs = (w', none)) :
    P w' := by
  induction xs generalizing w with
  | nil => cases there
  | cons y rest ih =>
      rcases outcome : f w y with ⟨next, _ | e⟩
      · have remaining : eachUntilError f next rest = (w', none) := by
          simpa only [eachUntilError, outcome] using done
        rcases List.mem_cons.1 there with rfl | later
        · have first : P next := by
            have here := establish w
            rw [outcome] at here
            exact here rfl
          have kept : P (eachUntilError f next rest).1 :=
            eachUntilError_keeps (P := P) (fun w y _ => keep w y) first
          rw [remaining] at kept
          exact kept
        · exact ih later remaining
      · simp [eachUntilError, outcome] at done

variable {feeds : SessionId → Nat → Prop} {P : World → Prop}

theorem KeptByDelivery.deliver (kept : KeptByDelivery feeds P) (depth : Nat) (v : Value) {w : World}
    (hw : P w) {subscriber : Subscriber}
    (fed : ∀ id partition, subscriber = .enter id partition → feeds id partition) :
    P (deliver depth v w subscriber).1 := by
  -- the depth bounds how far values are forwarded; the subscribers of a stream are one level below
  induction depth generalizing v w subscriber with
  | zero =>
      cases subscriber with
      | collect id => exact kept.collect w id v hw
      | forward id => exact hw
      | enter id partition => exact kept.enter w id partition v (fed id partition rfl) hw
      | process id => exact hw
  | succ depth ih =>
      cases subscriber with
      | collect id => exact kept.collect w id v hw
      | forward id =>
          have stored := kept.store w id v hw
          refine eachUntilError_keeps (P := P) (fun _ next registered h => ih v h ?_) stored
          -- the subscribers are those of the stream once it has stored the value
          intro other partition same
          exact kept.subscribed _ stored id other partition (same ▸ registered)
      | enter id partition => exact kept.enter w id partition v (fed id partition rfl) hw
      | process id =>
          -- what a processor publishes goes to streams, which are no sessions
          exact List.foldlRecOn _ _ (kept.hand w id v hw) fun _ hu e _ =>
            ih e.2 hu fun _ _ same => by cases same

theorem KeptByDelivery.publish (kept : KeptByDelivery feeds P) {w : World} (hw : P w)
    (id : SourceId) (v : Value) : P (w.publish id v).1 :=
  kept.deliver _ v hw fun _ _ same => by cases same

/-- Subscribing registers the subscriber and then makes deliveries. -/
theorem KeptByDelivery.subscribe (kept : KeptByDelivery feeds P) {w : World} {id : SourceId}
    {subscriber : Subscriber}
    (fed : ∀ id partition, subscriber = .enter id partition → feeds id partition)
    (registered :
      P (w.modifyStream id fun s => { s with subscribers := s.subscribers ++ [subscriber] })) :
    P (w.subscribe id subscriber).1 := by
  unfold World.subscribe
  exact eachUntilError_keeps (P := P) (fun _ v _ h => kept.deliver _ v h fed) registered

/-- A property that a program keeps, when making facts and streams keeps it too. -/
theorem KeptByDelivery.run (kept : KeptByDelivery feeds P)
    (newFact : ∀ w typeName fields, P w → P (w.newFact typeName fields).2)
    (openStream : ∀ w, P w → P w.openStream.2) {α : Type} (firing : Firing) (p : Program α)
    {s : Progress} (hs : P s.world) : P (p.run firing s).2.world := by
  induction p generalizing s with
  | done a => exact hs
  | fail e => exact hs
  | look next ih => exact ih _ hs
  | request effect next ih => exact ih hs
  | takeBack next ih => exact ih _ hs
  | newFact typeName fields next ih => exact ih _ (newFact s.world typeName fields hs)
  | openStream next ih => exact ih _ (openStream s.world hs)
  | publish id v next ih => exact ih _ (kept.publish hs id v)
  | note line next ih => exact ih hs

/-! ## Sessions of a world -/

variable {w w' w'' : World}

/-- Looking up a numbered thing, with a fallback, after one more was added. -/
theorem getD_concat {α : Type} (xs : List α) (x fallback : α) (i : Nat) :
    ((xs ++ [x])[i]?).getD fallback = if i = xs.length then x else (xs[i]?).getD fallback := by
  rw [List.getElem?_append]
  split
  · rename_i inside
    rw [if_neg (Nat.ne_of_lt inside)]
  · split
    · rename_i next
      simp [next]
    · have later : xs.length < i := by omega
      have beyond : [x].length ≤ i - xs.length := by
        rw [List.length_singleton]
        omega
      rw [List.getElem?_eq_none beyond, List.getElem?_eq_none (Nat.le_of_lt later)]

/-- Whether a number was given to a session. -/
def Knows (w : World) (id : SessionId) : Prop :=
  id.index < w.sessions.length

instance (w : World) (id : SessionId) : Decidable (w.Knows id) :=
  inferInstanceAs (Decidable (_ < _))

theorem session_setSession (w : World) (id other : SessionId) (s : Session) :
    (w.setSession id s).session other =
      if other = id ∧ w.Knows id then s else w.session other := by
  unfold session setSession Knows
  by_cases same : other = id
  · subst same
    by_cases known : other.index < w.sessions.length
    · simp [known]
    · simp [known]
  · have apart : id.index ≠ other.index := by
      intro hindex
      exact same (by cases id; cases other; simp_all)
    simp [same, List.getElem?_set_ne apart]

theorem session_setSession_self {id : SessionId} (known : w.Knows id) (s : Session) :
    (w.setSession id s).session id = s := by
  simp [session_setSession, known]

theorem session_setSession_ne {id other : SessionId} (apart : other ≠ id) (s : Session) :
    (w.setSession id s).session other = w.session other := by
  simp [session_setSession, apart]

@[simp] theorem length_setSession (w : World) (id : SessionId) (s : Session) :
    (w.setSession id s).sessions.length = w.sessions.length :=
  List.length_set

theorem session_eq_of_sessions (same : w'.sessions = w.sessions) (id : SessionId) :
    w'.session id = w.session id := by
  unfold session
  rw [same]

theorem collect_sessions (w : World) (id : CollectorId) (v : Value) :
    (w.collect id v).1.sessions = w.sessions := by
  unfold collect
  split
  · rfl
  · split <;> rfl

end World

/-! ## Feeding a session -/

/-- The session after objects were taken into it one after the other, each through a partition. -/
def Session.fed (s : Session) (objects : List (Value × Nat)) : Session :=
  { s with memory := objects.foldl (fun memory e => (memory.insert e.1 e.2).2) s.memory }

namespace Session

@[simp] theorem fed_nil (s : Session) : s.fed [] = s := rfl

theorem fed_append (s : Session) (objects more : List (Value × Nat)) :
    s.fed (objects ++ more) = (s.fed objects).fed more := by
  simp [fed, List.foldl_append]

@[simp] theorem fed_broken (s : Session) (objects : List (Value × Nat)) :
    (s.fed objects).broken = s.broken := rfl

@[simp] theorem fed_entryPoints (s : Session) (objects : List (Value × Nat)) :
    (s.fed objects).entryPoints = s.entryPoints := rfl

@[simp] theorem fed_defaultEntryPoint (s : Session) (objects : List (Value × Nat)) :
    (s.fed objects).defaultEntryPoint = s.defaultEntryPoint := rfl

@[simp] theorem fed_globals (s : Session) (objects : List (Value × Nat)) :
    (s.fed objects).globals = s.globals := rfl

/-- Taking an object in feeds a session whose memory is in order, and fails otherwise. -/
theorem insertThrough_eq (s : Session) (partition : Nat) (v : Value) :
    s.insertThrough partition v =
      if s.broken then .error brokenError
      else .ok (⟨s.memory.nextId, partition⟩, s.fed [(v, partition)]) := by
  unfold insertThrough readMemory
  cases h : s.broken with
  | true => rfl
  | false => simp [fed, h]

end Session

namespace World

variable {w w' w'' : World}

/-- Whether a stream hands its values to a session, through a partition. -/
def Feeds (w : World) (id : SessionId) (partition : Nat) : Prop :=
  ∃ source, .enter id partition ∈ (w.stream source).subscribers

/-- Every session was fed some objects, each through a partition that a stream feeds, and none while
its memory was out of order.  The subscriptions are the same. -/
structure Fed (w w' : World) : Prop where
  length_eq : w'.sessions.length = w.sessions.length
  subscribers_eq : ∀ source, (w'.stream source).subscribers = (w.stream source).subscribers
  objects : ∀ id, ∃ objects, w'.session id = (w.session id).fed objects ∧
    ((w.session id).broken = true → objects = []) ∧ ∀ e ∈ objects, w.Feeds id e.2

theorem Fed.of_sessions (same : w'.sessions = w.sessions)
    (subscribers : ∀ source, (w'.stream source).subscribers = (w.stream source).subscribers) :
    Fed w w' where
  length_eq := by rw [same]
  subscribers_eq := subscribers
  objects id := ⟨[], session_eq_of_sessions same id, fun _ => rfl, by simp⟩

theorem Fed.refl (w : World) : Fed w w :=
  .of_sessions rfl fun _ => rfl

theorem Fed.feeds_iff (h : Fed w w') {id : SessionId} {partition : Nat} :
    w'.Feeds id partition ↔ w.Feeds id partition := by
  unfold Feeds
  simp only [h.subscribers_eq]

theorem Fed.trans (h : Fed w w') (h' : Fed w' w'') : Fed w w'' where
  length_eq := h'.length_eq.trans h.length_eq
  subscribers_eq source := (h'.subscribers_eq source).trans (h.subscribers_eq source)
  objects := by
    intro id
    rcases h.objects id with ⟨objects, first, none, bound⟩
    rcases h'.objects id with ⟨more, second, none', bound'⟩
    refine ⟨objects ++ more, ?_, ?_, ?_⟩
    · rw [second, first, Session.fed_append]
    · intro broken
      rw [none broken, none' (by rw [first, Session.fed_broken, broken]), List.nil_append]
    · intro e he
      rcases List.mem_append.1 he with he | he
      · exact bound e he
      · exact h.feeds_iff.1 (bound' e he)

/-! ### The small changes -/

theorem stream_of_unopened {w : World} {id : SourceId} (unopened : ¬ id.index < w.streams.length) :
    w.stream id = ⟨[], []⟩ := by
  unfold stream
  rw [List.getElem?_eq_none (Nat.not_lt.1 unopened)]
  rfl

theorem stream_modifyStream (w : World) (id source : SourceId) (f : Stream → Stream) :
    ((w.modifyStream id f).stream source) =
      if id = source ∧ id.index < w.streams.length then f (w.stream source)
      else w.stream source := by
  unfold stream modifyStream
  rw [List.getElem?_modify]
  by_cases same : id = source
  · subst same
    by_cases known : id.index < w.streams.length
    · simp [known]
    · simp [known]
  · have apart : id.index ≠ source.index := by
      intro hindex
      exact same (by cases id; cases source; simp_all)
    simp [same, apart]

theorem Fed.store (w : World) (id : SourceId) (v : Value) :
    Fed w (w.modifyStream id fun s => { s with values := s.values ++ [v] }) := by
  refine .of_sessions rfl fun source => ?_
  rw [stream_modifyStream]
  split <;> rfl

theorem Fed.collect (w : World) (id : CollectorId) (v : Value) : Fed w (w.collect id v).1 := by
  refine .of_sessions (collect_sessions w id v) fun source => ?_
  unfold World.collect
  split
  · rfl
  · split <;> rfl

theorem Fed.hand (w : World) (id : ProcessorId) (v : Value) : Fed w (w.hand id v) :=
  .of_sessions rfl fun _ => rfl

/-- A new stream is as empty as its number stood for before. -/
theorem stream_openStream (w : World) (id : SourceId) : w.openStream.2.stream id = w.stream id := by
  unfold stream World.openStream
  rw [getD_concat]
  split
  · rename_i next
    rw [next, List.getElem?_eq_none (Nat.le_refl _)]
    rfl
  · rfl

theorem Fed.openStream (w : World) : Fed w w.openStream.2 :=
  .of_sessions rfl fun source => congrArg Stream.subscribers (stream_openStream w source)

theorem session_enter (w : World) (id other : SessionId) (partition : Nat) (v : Value) :
    (w.enter id partition v).1.session other =
      if (other = id ∧ w.Knows id) ∧ (w.session id).broken = false then
        (w.session id).fed [(v, partition)]
      else w.session other := by
  unfold World.enter
  rw [Session.insertThrough_eq]
  cases broken : (w.session id).broken with
  | true => simp
  | false => simp [session_setSession]

theorem Fed.enter {id : SessionId} {partition : Nat} (bound : w.Feeds id partition) (v : Value) :
    Fed w (w.enter id partition v).1 where
  length_eq := by
    unfold World.enter
    split
    · exact length_setSession _ _ _
    · rfl
  subscribers_eq source := by
    unfold World.enter
    split <;> rfl
  objects := by
    intro other
    rw [session_enter]
    split
    · rename_i here
      rcases here with ⟨⟨rfl, -⟩, intact⟩
      exact ⟨[(v, partition)], rfl, by simp [intact], by simpa using bound⟩
    · exact ⟨[], rfl, fun _ => rfl, by simp⟩

theorem Fed.kept (w : World) : KeptByDelivery w.Feeds (Fed w) where
  store w' id v h := h.trans (.store w' id v)
  collect w' id v h := h.trans (.collect w' id v)
  hand w' id v h := h.trans (.hand w' id v)
  enter _ _ _ v bound h := h.trans (.enter (h.feeds_iff.2 bound) v)
  subscribed _ h source _ _ registered := h.feeds_iff.1 ⟨source, registered⟩

/-- A program only feeds sessions. -/
theorem fed_run {α : Type} (firing : Firing) (p : Program α) (s : Progress) :
    Fed s.world (p.run firing s).2.world :=
  (Fed.kept s.world).run (fun _ _ _ h => h.trans (.of_sessions rfl fun _ => rfl))
    (fun w h => h.trans (.openStream w)) firing p (.refl _)

end World
end RuleEngine
