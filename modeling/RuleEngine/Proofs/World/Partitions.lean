import RuleEngine.Proofs.Memory.Records
import RuleEngine.Proofs.Session.Numbering
import RuleEngine.Proofs.World.Handles
import RuleEngine.Proofs.World.Journal

/-!
# Entry points partition the memory

Objects come into a session by many ways: inserted through its default entry point or another one, as
an effect of a firing, or handed over by a stream.  Each way stamps the handle with a partition of its
own account.  The journal shows that they agree: whoever inserted it, an object lies in the partition
of the entry point that it was inserted through, and the partitions number the entry points in the
order in which they were declared.

So the objects of a partition are those that were inserted through its entry point and are still live,
in the order of insertion.
-/

namespace RuleEngine
namespace Journal

open World (Act Call)

/-! ## What the journal says of a session -/

/-- What came into a session, in order. -/
def entriesOf (j : Journal) (id : SessionId) : List Entry :=
  j.entries.filter (·.session = id)

/-- The handles that a session has given to objects, and the objects, in order. -/
def recordOf (j : Journal) (id : SessionId) : List (Handle × Value) :=
  (j.entriesOf id).map fun e => (e.handle, e.value)

/-- The entry points of a session, in the order in which they were declared. -/
def namesOf (j : Journal) (id : SessionId) : List String :=
  (j.declared.filter (·.1 = id)).map (·.2)

/-- The notes agree with the sessions and the streams: each session holds what came into it, in the
partitions of the entry points by which it came, and the entry points are those that were declared. -/
structure Faithful (j : Journal) : Prop where
  records : ∀ id, (j.world.session id).memory.Records (j.recordOf id) fun h => (id, h) ∈ j.changed
  numbered : ∀ id, j.world.Knows id → (j.world.session id).Numbered (j.namesOf id)
  opened : ∀ e ∈ j.declared, j.world.Knows e.1
  entered : ∀ e ∈ j.entries,
    (j.world.session e.session).entryPoints.find? e.entryPoint = some e.handle.partition
  handed : ∀ e ∈ j.entries, ∀ feed, e.feed = some feed →
    j.world.subscriber? feed = some (.enter e.session e.handle.partition) ∧
      e.entryPoint = j.owner feed
  connected : ∀ feed id partition, j.world.subscriber? feed = some (.enter id partition) →
    j.world.Knows id ∧
      (j.world.session id).entryPoints.find? (j.owner feed) = some partition

variable {j : Journal} {id : SessionId} {source : SourceId} {name : String} {partition : Nat}

theorem faithful_empty : empty.Faithful where
  records _ := .empty _
  numbered _ known := absurd known (Nat.not_lt_zero _)
  opened := nofun
  entered := nofun
  handed := nofun
  connected := nofun

/-- A session that something came into was opened. -/
theorem Faithful.knows (hj : j.Faithful) {e : Entry} (there : e ∈ j.entries) :
    j.world.Knows e.session := by
  have recorded : (e.handle, e.value) ∈ j.recordOf e.session :=
    List.mem_map.2 ⟨e, List.mem_filter.2 ⟨there, by simp⟩, rfl⟩
  exact World.knows_of_given ((hj.records e.session).given _ recorded)

/-! ## Small changes -/

/-- What leaves the sessions and the subscriptions as they are, leaves the notes right. -/
theorem Faithful.elsewhere (hj : j.Faithful) {w : World} (sessions : w.sessions = j.world.sessions)
    (subscriptions : ∀ feed, w.subscriber? feed = j.world.subscriber? feed) (refusals : List Feed)
    (echoes : List SourceId) :
    Faithful { j with world := w, refusals := refusals, echoes := echoes } := by
  have same : ∀ id, w.session id = j.world.session id := World.session_eq_of_sessions sessions
  have knows : ∀ id, w.Knows id ↔ j.world.Knows id := by
    intro id
    unfold World.Knows
    rw [sessions]
  constructor
  case records => exact fun id => (same id).symm ▸ hj.records id
  case numbered => exact fun id known => (same id).symm ▸ hj.numbered id ((knows id).1 known)
  case opened => exact fun e there => (knows _).2 (hj.opened e there)
  case entered => exact fun e there => (same e.session).symm ▸ hj.entered e there
  case handed =>
    intro e there feed fed
    have ⟨handed, owned⟩ := hj.handed e there feed fed
    exact ⟨(subscriptions feed).trans handed, owned⟩
  case connected =>
    intro feed id partition registered
    have ⟨known, found⟩ := hj.connected feed id partition ((subscriptions feed).symm.trans registered)
    exact ⟨(knows id).2 known, (same id).symm ▸ found⟩

/-- Notes about one session are found with that session and with no other. -/
theorem filter_notes {α : Type} (about : α → SessionId) (notes : List α) {more : List α}
    (same : ∀ e ∈ more, about e = id) (other : SessionId) :
    (notes ++ more).filter (fun e => about e = other) =
      notes.filter (fun e => about e = other) ++ if other = id then more else [] := by
  rw [List.filter_append]
  refine congrArg (notes.filter (fun e => about e = other) ++ ·) ?_
  split
  · rename_i here
    exact List.filter_eq_self.2 fun e there => decide_eq_true ((same e there).trans here.symm)
  · rename_i apart
    exact List.filter_eq_nil_iff.2 fun e there found =>
      apart ((of_decide_eq_true found).symm.trans (same e there))

/-- A change of one session, with the notes that belong to it. -/
theorem Faithful.change (hj : j.Faithful) (known : j.world.Knows id) (s : Session)
    (more : List Entry) (names : List String) (handles : List Handle)
    (records : s.memory.Records (j.recordOf id ++ more.map fun e => (e.handle, e.value))
      fun h => (id, h) ∈ j.changed ∨ h ∈ handles)
    (numbered : s.Numbered (j.namesOf id ++ names))
    (grown : ∀ name partition, (j.world.session id).entryPoints.find? name = some partition →
      s.entryPoints.find? name = some partition)
    (entered : ∀ e ∈ more, e.session = id ∧
      s.entryPoints.find? e.entryPoint = some e.handle.partition ∧
      ∀ feed, e.feed = some feed →
        j.world.subscriber? feed = some (.enter id e.handle.partition) ∧
          e.entryPoint = j.owner feed) :
    Faithful
      { j with
        world := j.world.setSession id s
        entries := j.entries ++ more
        declared := j.declared ++ names.map (id, ·)
        changed := j.changed ++ handles.map (id, ·) } := by
  have here := World.session_setSession_self known s
  have elsewhere : ∀ other, other ≠ id →
      (j.world.setSession id s).session other = j.world.session other :=
    fun _ apart => World.session_setSession_ne apart s
  -- an entry point that was declared, in this session or in another, has kept its partition
  have still_found : ∀ other name partition,
      (j.world.session other).entryPoints.find? name = some partition →
        ((j.world.setSession id s).session other).entryPoints.find? name = some partition := by
    intro other name partition found
    by_cases same : other = id
    · subst same
      rw [here]
      exact grown name partition found
    · rw [elsewhere other same]
      exact found
  have still_known : ∀ other, (j.world.setSession id s).Knows other ↔ j.world.Knows other := by
    intro other
    unfold World.Knows
    rw [World.length_setSession]
  constructor
  case records =>
    intro other
    have notes := filter_notes Entry.session j.entries (fun e there => (entered e there).1) other
    simp only [recordOf, entriesOf, notes, List.map_append, List.mem_append]
    by_cases same : other = id
    · subst same
      rw [here, if_pos rfl]
      refine records.mono fun h => Or.imp_right fun there => ?_
      exact List.mem_map_of_mem there
    · rw [elsewhere other same, if_neg same, List.map_nil, List.append_nil]
      exact (hj.records other).mono fun h => Or.inl
  case numbered =>
    intro other known
    have about : ∀ e ∈ names.map (id, ·), e.1 = id := by
      intro e there
      rcases List.mem_map.1 there with ⟨name, -, rfl⟩
      rfl
    have notes := filter_notes Prod.fst j.declared about other
    simp only [namesOf, notes, List.map_append]
    by_cases same : other = id
    · subst same
      rw [here, if_pos rfl, List.map_map]
      simpa [Function.comp_def, namesOf] using numbered
    · rw [elsewhere other same, if_neg same, List.map_nil, List.append_nil]
      exact hj.numbered other ((still_known other).1 known)
  case opened =>
    intro e there
    rcases List.mem_append.1 there with old | new
    · exact (still_known _).2 (hj.opened e old)
    · rcases List.mem_map.1 new with ⟨name, -, rfl⟩
      exact (still_known _).2 known
  case entered =>
    intro e there
    rcases List.mem_append.1 there with old | new
    · exact still_found _ _ _ (hj.entered e old)
    · have ⟨same, found, _⟩ := entered e new
      show ((j.world.setSession id s).session e.session).entryPoints.find? _ = _
      rw [same, here]
      exact found
  case handed =>
    intro e there feed fed
    rcases List.mem_append.1 there with old | new
    · exact hj.handed e old feed fed
    · have ⟨same, _, handed⟩ := entered e new
      rw [same]
      exact handed feed fed
  case connected =>
    intro feed other partition registered
    have ⟨known, found⟩ := hj.connected feed other partition registered
    exact ⟨(still_known other).2 known, still_found _ _ _ found⟩

/-! ## Acts -/

/-- An object comes into a session by an entry point, with the partition of the entry point. -/
theorem Faithful.enter (hj : j.Faithful) (known : j.world.Knows id) (v : Value)
    (found : (j.world.session id).entryPoints.find? name = some partition) {feed : Option Feed}
    (owned : ∀ f, feed = some f →
      j.world.subscriber? f = some (.enter id partition) ∧ name = j.owner f) :
    (j.enter id partition v name feed).1.Faithful := by
  unfold Journal.enter
  rw [Session.insertThrough_eq]
  cases (j.world.session id).broken with
  | true => exact hj
  | false =>
      let h : Handle := ⟨(j.world.session id).memory.nextId, partition⟩
      let s := (j.world.session id).fed [(v, partition)]
      have inserted := (hj.records id).insert v partition
      have numbered : s.Numbered (j.namesOf id ++ []) := by
        rw [List.append_nil]
        exact (hj.numbered id known).of_entryPoints rfl rfl
      have changed := hj.change known s [⟨id, name, h, v, feed⟩] [] []
        (inserted.mono fun _ => Or.inl) numbered (fun _ _ found => found)
        (List.forall_mem_singleton.2 ⟨rfl, found, owned⟩)
      simpa using changed

theorem mem_namesOf : name ∈ j.namesOf id ↔ (id, name) ∈ j.declared := by
  simp [namesOf]

theorem Faithful.declare (hj : j.Faithful) (known : j.world.Knows id) (name : String) :
    (j.declare id name).2.Faithful := by
  have numbered := (hj.numbered id known).declare name
  have records : ((j.world.session id).declare name).2.memory.Records (j.recordOf id) fun h =>
      (id, h) ∈ j.changed := Session.declare_memory.symm ▸ hj.records id
  have grown := fun other partition (found : (j.world.session id).entryPoints.find? other =
      some partition) => Session.find?_declare_of_find? found name
  unfold Journal.declare World.declareEntryPoint
  -- the journal notes a name once, as the session numbers it once
  by_cases declared : (id, name) ∈ j.declared
  · rw [if_pos (mem_namesOf.2 declared)] at numbered
    have changed := hj.change known ((j.world.session id).declare name).2 [] [] []
      (by simpa using records) (by simpa using numbered) grown nofun
    simpa [declared] using changed
  · rw [if_neg (mt mem_namesOf.1 declared)] at numbered
    have changed := hj.change known ((j.world.session id).declare name).2 [] [name] []
      (by simpa using records) numbered grown nofun
    simpa [declared] using changed

theorem knows_declare (known : j.world.Knows id) (name : String) :
    (j.declare id name).2.world.Knows id :=
  World.knows_setSession known

/-- After a declaration the entry point has the partition that was answered. -/
theorem find?_of_declare (known : j.world.Knows id) (name : String) :
    ((j.declare id name).2.world.session id).entryPoints.find? name =
      some (j.declare id name).1 := by
  unfold Journal.declare World.declareEntryPoint
  rw [World.session_setSession_self known, Session.find?_declare, if_pos rfl]

theorem Faithful.insertAt (hj : j.Faithful) (known : j.world.Knows id)
    (entryPoint : Option String) (v : Value) : (j.insertAt id entryPoint v).1.Faithful :=
  (hj.declare known _).enter (knows_declare known _) v (find?_of_declare known _) nofun

theorem Faithful.operate (hj : j.Faithful) (known : j.world.Knows id)
    (intact : (j.world.session id).broken = false) {h : Handle}
    {operation : WorkingMemory.Operation} (target : operation.target? = some h) :
    (j.operate id h operation).Faithful := by
  let s := { j.world.session id with memory := (j.world.session id).memory.perform operation }
  have records := (hj.records id).perform target
  have numbered : s.Numbered (j.namesOf id ++ []) := by
    rw [List.append_nil]
    exact (hj.numbered id known).of_entryPoints rfl rfl
  unfold Journal.operate
  rw [World.changeMemory_eq intact]
  -- nothing happens to a dead handle, and nothing is noted about it
  by_cases live : (j.world.session id).memory.contains h = true
  · have changed := hj.change known s [] [] [h]
      (by simpa [live] using records) numbered (fun _ _ found => found) nofun
    simpa [live] using changed
  · have changed := hj.change known s [] [] []
      (by simpa [live] using records) numbered (fun _ _ found => found) nofun
    simpa [live] using changed

theorem Faithful.setGlobal (hj : j.Faithful) (known : j.world.Knows id) (name : String)
    (v : Value) : Faithful { j with world := (j.world.applyWiring id (.setGlobal name v)).1 } := by
  simp only [World.applyWiring]
  split
  · rename_i s set
    rcases Session.setGlobal_eq_ok set with ⟨-, same⟩
    have numbered : s.Numbered (j.namesOf id ++ []) := by
      rw [List.append_nil, same]
      exact (hj.numbered id known).of_entryPoints rfl rfl
    have changed := hj.change known s [] [] []
      (by simpa [same] using hj.records id) numbered (by simp [same]) (by simp)
    simpa using changed
  · exact hj

theorem Faithful.openSession (hj : j.Faithful) (defaultEntryPoint : String) (types : GlobalTypes) :
    (j.act (.openSession defaultEntryPoint types)).Faithful := by
  let new : SessionId := ⟨j.world.sessions.length⟩
  let w := (j.world.openSession (.start defaultEntryPoint types)).2
  have opened : ∀ other, w.session other =
      if other.index = j.world.sessions.length then .start defaultEntryPoint types
      else j.world.session other := World.session_openSession _ _
  have before : ∀ other, j.world.Knows other → w.session other = j.world.session other := by
    intro other known
    rw [opened, if_neg (Nat.ne_of_lt known)]
  have length : w.sessions.length = j.world.sessions.length + 1 := List.length_append
  have still_known : ∀ other, j.world.Knows other → w.Knows other :=
    fun _ known => Nat.lt_of_lt_of_eq (Nat.lt_succ_of_lt known) length.symm
  have new_name : ∀ e ∈ [(new, defaultEntryPoint)], e.1 = new := List.forall_mem_singleton.2 rfl
  constructor
  case records =>
    intro other
    show (w.session other).memory.Records _ _
    by_cases is_new : other.index = j.world.sessions.length
    · -- nothing came into the number before, which stood for an empty memory
      have nothing := hj.records other
      rw [World.memory_of_unknown (Nat.not_lt.2 (Nat.le_of_eq is_new.symm))] at nothing
      rw [opened, if_pos is_new, Session.start, Session.declare_memory]
      exact nothing
    · rw [opened, if_neg is_new]
      exact hj.records other
  case numbered =>
    intro other known
    have notes := filter_notes Prod.fst j.declared new_name other
    show (w.session other).Numbered (((j.declared ++ [(new, defaultEntryPoint)]).filter _).map _)
    rw [notes, opened]
    by_cases is_new : other.index = j.world.sessions.length
    · have same : other = new := by
        cases other
        exact congrArg SessionId.mk is_new
      -- no note can be about a session that was not opened
      have nothing : j.declared.filter (fun e => e.1 = other) = [] := by
        refine List.filter_eq_nil_iff.2 fun e there here => ?_
        have known := hj.opened e there
        rw [of_decide_eq_true here] at known
        exact Nat.ne_of_lt known is_new
      rw [if_pos is_new, if_pos same, nothing]
      exact Session.numbered_start _ _
    · have apart : other ≠ new := by
        rintro rfl
        exact is_new rfl
      have known' : j.world.Knows other :=
        Nat.lt_of_le_of_ne (Nat.le_of_lt_succ (Nat.lt_of_lt_of_eq known length)) is_new
      rw [if_neg is_new, if_neg apart, List.append_nil]
      exact hj.numbered other known'
  case opened =>
    intro e there
    rcases List.mem_append.1 there with old | latest
    · exact still_known _ (hj.opened e old)
    · rw [List.mem_singleton.1 latest]
      exact Nat.lt_of_lt_of_eq (Nat.lt_succ_self _) length.symm
  case entered => exact fun e there => (before _ (hj.knows there)).symm ▸ hj.entered e there
  case handed => exact hj.handed
  case connected =>
    intro feed other partition registered
    obtain ⟨known, found⟩ := hj.connected feed other partition registered
    exact ⟨still_known other known, (before other known).symm ▸ found⟩

/-- A stream gets a subscriber, which feeds an entry point of a session or is none. -/
theorem Faithful.register (hj : j.Faithful) (owner : Feed → String) {subscriber : Subscriber}
    (same : ∀ feed, feed ≠ j.nextFeed source → owner feed = j.owner feed)
    (connected : ∀ id partition, subscriber = .enter id partition →
      j.world.Knows id ∧
        (j.world.session id).entryPoints.find? (owner (j.nextFeed source)) = some partition) :
    Faithful (Journal.registering { j with owner := owner } source subscriber) := by
  have subscriptions := subscriber?_registering { j with owner := owner } source subscriber
  -- the subscription is new, so nothing was noted about it
  have apart : ∀ feed subscriber, j.world.subscriber? feed = some subscriber →
      feed ≠ j.nextFeed source := by
    rintro feed subscriber registered rfl
    rw [subscriber?_nextFeed] at registered
    cases registered
  constructor
  case records => exact hj.records
  case numbered => exact hj.numbered
  case opened => exact hj.opened
  case entered => exact hj.entered
  case handed =>
    intro e there feed fed
    have ⟨handed, owned⟩ := hj.handed e there feed fed
    have older := apart feed _ handed
    refine ⟨?_, owned.trans (same feed older).symm⟩
    rw [subscriptions, if_neg fun here => older here.1]
    exact handed
  case connected =>
    intro feed id partition registered
    rw [subscriptions] at registered
    split at registered
    · rename_i here
      rw [here.1]
      exact connected id partition (Option.some.inj registered)
    · have ⟨known, found⟩ := hj.connected feed id partition registered
      refine ⟨known, ?_⟩
      show (j.world.session id).entryPoints.find? (owner feed) = some partition
      rw [same feed (apart feed _ registered)]
      exact found

theorem Faithful.kept : Kept Faithful where
  store j id v hj := by
    refine hj.elsewhere (w := j.world.storing id v) rfl (fun feed => ?_) j.refusals j.echoes
    exact subscriber?_of_extends (World.Extends.store j.world id v) feed
  collect j id v hj := by
    refine hj.elsewhere (World.collect_sessions j.world id v) (fun feed => ?_) j.refusals j.echoes
    unfold World.subscriber?
    rw [(World.Fed.collect j.world id v).subscribers_eq]
  hand j id v hj := hj.elsewhere (w := j.world.hand id v) rfl (fun _ => rfl) j.refusals j.echoes
  enter j feed id partition v registered hj := by
    -- the partition was fixed when the subscription was made, and it is still the one of its name
    have ⟨known, found⟩ := hj.connected feed id partition registered
    refine hj.enter known v found ?_
    intro f same
    cases same
    exact ⟨registered, rfl⟩
  refuse j feed hj := hj.elsewhere rfl (fun _ => rfl) _ j.echoes
  echo j id hj := hj.elsewhere rfl (fun _ => rfl) j.refusals _

theorem Faithful.connect (hj : j.Faithful) (known : j.world.Knows id) (source : SourceId)
    (name : String) : (j.connect source id name).1.Faithful := by
  have declared := hj.declare known name
  have found := find?_of_declare known name
  have known' := knows_declare known name
  unfold Journal.connect
  generalize j.declare id name = answer at declared found known'
  rcases answer with ⟨partition, j'⟩
  -- the owner of the next subscription is noted before the subscription is made
  refine Faithful.kept.subscribe (declared.register _ ?_ ?_)
  · intro feed apart
    exact Function.update_of_ne apart name j'.owner
  · rintro _ _ ⟨⟩
    rw [Function.update_self]
    exact ⟨known', found⟩

/-- An act on a session that was opened leaves the notes right. -/
theorem Faithful.act (hj : j.Faithful) (regular : j.world.Regular) {a : Act}
    (admitted : j.world.Admits (.act a) = true) : (j.act a).Faithful := by
  have known : ∀ id, a.session? = some id → j.world.Knows id := by
    intro id about
    exact of_decide_eq_true ((Option.all_eq_true _ _).1 admitted id about)
  cases a with
  | openSession defaultEntryPoint types => exact hj.openSession defaultEntryPoint types
  | openStream =>
      refine hj.elsewhere (w := j.world.openStream.2) rfl (fun feed => ?_) j.refusals j.echoes
      unfold World.subscriber?
      rw [World.stream_openStream]
  | openCollector limit message =>
      exact hj.elsewhere (w := j.world.act (.openCollector limit message)) rfl (fun _ => rfl)
        j.refusals j.echoes
  | openProcessor reactions =>
      exact hj.elsewhere (w := j.world.act (.openProcessor reactions)) rfl (fun _ => rfl)
        j.refusals j.echoes
  | newFact typeName fields =>
      exact hj.elsewhere (w := j.world.act (.newFact typeName fields)) rfl (fun _ => rfl)
        j.refusals j.echoes
  | publish source v => exact Faithful.kept.publish hj source v
  | subscribe source reader =>
      cases reader with
      | collector id => exact Faithful.kept.subscribe (hj.register j.owner (fun _ _ => rfl) nofun)
      | stream id => exact Faithful.kept.subscribe (hj.register j.owner (fun _ _ => rfl) nofun)
      | processor id => exact Faithful.kept.subscribe (hj.register j.owner (fun _ _ => rfl) nofun)
      | entryPoint id name => exact hj.connect (known id rfl) source name
  | declare id name => exact hj.declare (known id rfl) name
  | insert id entryPoint v => exact hj.insertAt (known id rfl) entryPoint v
  | update id h v => exact hj.operate (known id rfl) (regular.intact id) rfl
  | retract id h => exact hj.operate (known id rfl) (regular.intact id) rfl
  | setGlobal id name v => exact hj.setGlobal (known id rfl) name v

theorem faithful_of (calls : List Call) : (of calls).Faithful :=
  of_keeps (fun _ _ regular admitted hj => hj.act regular admitted) faithful_empty calls

/-! ## The objects of an entry point -/

/-- The handles that were given to objects inserted through an entry point, in order. -/
def issuedThrough (j : Journal) (id : SessionId) (name : String) : List Handle :=
  ((j.entriesOf id).filter (·.entryPoint = name)).map (·.handle)

/-- A partition holds what came in by its entry point. -/
theorem Faithful.inPartition_eq (hj : j.Faithful) (known : j.world.Knows id)
    (fits : (j.namesOf id).length ≤ UInt32.size)
    (found : (j.world.session id).entryPoints.find? name = some partition) :
    ((j.world.session id).memory.inPartition partition).map (·.2) =
      (j.issuedThrough id name).filterMap (j.world.session id).memory.find? := by
  have numbered := hj.numbered id known
  -- different entry points have different partitions
  have same : ∀ e ∈ j.entriesOf id,
      decide (e.handle.partition = partition) = decide (e.entryPoint = name) := by
    intro e there
    have ⟨entry, here⟩ := List.mem_filter.1 there
    have entered := hj.entered e entry
    rw [of_decide_eq_true here] at entered
    refine decide_eq_decide.2 ⟨?_, ?_⟩
    · intro lies
      rw [lies, numbered.find?_iff fits] at entered
      rw [numbered.find?_iff fits, entered] at found
      exact Option.some.inj found
    · intro through
      rw [through, found] at entered
      exact (Option.some.inj entered).symm
  rw [(hj.records id).inPartition_eq, recordOf, issuedThrough, List.filter_map, List.filterMap_map,
    List.filterMap_map]
  exact congrArg _ (List.filter_congr same)

theorem Faithful.entries_ascending (hj : j.Faithful) (id : SessionId) :
    (j.entriesOf id).Pairwise fun a b => a.handle.id < b.handle.id := by
  have ascending := (hj.records id).ascending
  rw [recordOf, List.pairwise_map] at ascending
  exact ascending

theorem Faithful.issued_ascending (hj : j.Faithful) (id : SessionId) (name : String) :
    (j.issuedThrough id name).Pairwise fun a b => a.id < b.id :=
  List.pairwise_map.2 ((hj.entries_ascending id).filter _)

/-! ## All calls -/

/-- The entry points of a session, whatever is called, have different names and have the numbers from 0
on as their partitions, in the order in which they were declared, the default one first.  Declaring
one again answers its partition and changes nothing, and later calls do not move it.  Its objects are
those that are now behind the live handles that were given to insertions through it, in the order of
insertion, and its count is their number. -/
theorem entry_points_partition_memory (calls : List Call) (id : SessionId)
    (known : (World.serveAll calls).Knows id)
    (fits : ((of calls).namesOf id).length ≤ UInt32.size) :
    let w := World.serveAll calls
    let s := w.session id
    let names := (of calls).namesOf id
    (of calls).world = w ∧ names.Nodup ∧ names.head? = some s.defaultEntryPoint ∧
    (∀ name partition,
      s.entryPoints.find? name = some partition ↔ names[partition]? = some name) ∧
    ∀ name partition, s.entryPoints.find? name = some partition →
      s.declare name = (partition, s) ∧
      (∀ later : List Call,
        ((later.foldl World.serve w).session id).entryPoints.find? name = some partition) ∧
      let issued := (of calls).issuedThrough id name
      issued.Pairwise (fun a b => a.id < b.id) ∧
      s.objects partition = .ok (issued.filterMap s.memory.find?) ∧
      s.count partition = (issued.filterMap s.memory.find?).length := by
  intro w s names
  have same : (of calls).world = w := of_world calls
  have faithful := faithful_of calls
  have regular := World.regular_serveAll calls
  have known' : (of calls).world.Knows id := by
    rw [same]
    exact known
  have session_eq : (of calls).world.session id = s := by rw [same]
  have numbered : s.Numbered names := session_eq ▸ faithful.numbered id known'
  refine ⟨same, numbered.nodup, numbered.head_eq, fun _ _ => numbered.find?_iff fits, ?_⟩
  intro name partition found
  have holds := faithful.inPartition_eq known' fits (by rw [session_eq]; exact found)
  rw [session_eq] at holds
  have read : s.readMemory = .ok s.memory := Session.readMemory_of_intact (regular.intact id)
  refine ⟨Session.declare_eq_of_find? found, ?_, faithful.issued_ascending id name, ?_, ?_⟩
  · intro later
    have steps := (World.Advances.calls regular later).steps id known
    exact steps.find?_entryPoint found
  · rw [← holds, Session.objects, read]
    rfl
  · rw [← holds, Session.count, read, List.length_map]

/-- A session with an entry point for orders beside the default one, and a stream of orders.  One order
is published before the stream is connected and one afterwards, one is inserted directly, and one is
retracted. -/
def ordersFed : List Call :=
  [.act (.openSession "DEFAULT" .empty), .act .openStream, .act (.publish ⟨0⟩ (.int 1)),
    .act (.insert ⟨0⟩ none (.int 5)), .act (.subscribe ⟨0⟩ (.entryPoint ⟨0⟩ "orders")),
    .act (.insert ⟨0⟩ (some "orders") (.int 2)), .act (.publish ⟨0⟩ (.int 3)),
    .act (.retract ⟨0⟩ ⟨1, 1⟩)]

theorem orders_in_their_partition :
    let s := (World.serveAll ordersFed).session ⟨0⟩
    (of ordersFed).namesOf ⟨0⟩ = ["DEFAULT", "orders"] ∧
    (of ordersFed).issuedThrough ⟨0⟩ "orders" = [⟨1, 1⟩, ⟨2, 1⟩, ⟨3, 1⟩] ∧
    s.objects 1 = .ok [.int 2, .int 3] := by
  have ⟨_, _, _, numbers, through⟩ :=
    entry_points_partition_memory ordersFed ⟨0⟩ (by decide) (by decide)
  have found := (numbers "orders" 1).2 rfl
  exact ⟨rfl, rfl, (through "orders" 1 found).2.2.2.1⟩

end Journal
end RuleEngine
