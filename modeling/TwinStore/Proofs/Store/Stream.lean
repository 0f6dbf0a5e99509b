/-
**Streams.** A stream of matches is read while another task still finds them. That task hands items
on through a queue of limited length.

* `Relay`: a task, the queue and a reader. `Relay.Step`: what each of them may do next.
* `Relay.Sound` and `sound_run`: whatever happens in which order, what was received, what is in the
  queue and what is still to come are the items of the stream.
* `step_of_reading` and `work_run`: a reader is not kept waiting for ever.
* `read_verbs_agree`: all verbs that read give what the backend offers.
-/

import TwinStore.Proofs.Store.Reading
import TwinStore.Store.Verb

namespace TwinStore

variable {σ κ τ : Type}

/-- What becomes of the task that finds the records of a stream. -/
inductive Producer where
  /-- The backend has records to offer. -/
  | finding (records : List Record) (ending : Except StoreError Unit)
  /-- A failure is to be handed on. -/
  | failing (error : StoreError)
  | done

namespace Producer

/-- The task for a query, for which a backend offers records. -/
def start (query : FindQuery) (records : List Record) (ending : Except StoreError Unit) :
    Producer :=
  match query.requireClass with
  | .ok _ => .finding records ending
  | .error error => .failing error

/-- The items that a task has yet to hand on. -/
def rest : Producer → List (Except StoreError Record)
  | finding records ending => Connection.items records ending
  | failing error => [.error error]
  | done => []

/-- How often a task and a reader may act for what the task has yet to do. -/
def work : Producer → Nat
  | finding records _ => 2 * records.length + 3
  | failing _ => 2
  | done => 0

end Producer

/-- What becomes of the reader of a stream. -/
inductive Reader where
  | reading
  /-- The end of the stream was read. -/
  | ended
  /-- The stream was dropped before. -/
  | gone
  deriving DecidableEq

/-- A task that finds records, the items that wait for the reader, the reader and what was
received. -/
structure Relay where
  producer : Producer
  queue : List (Except StoreError Record)
  reader : Reader
  received : List (Except StoreError Record)

/-- The number of items that may wait for the reader. -/
def streamBuffer : Nat := 32

namespace Relay

/-- A stream that nobody has read from. -/
def start (query : FindQuery) (records : List Record) (ending : Except StoreError Unit) : Relay :=
  ⟨.start query records ending, [], .reading, []⟩

/-- What happens next. The task waits for room in the queue, and for nothing when the reader is
gone; the reader waits for an item, or for the task to be done. -/
inductive Step (capacity : Nat) : Relay → Relay → Prop where
  | offer {record : Record} {records : List Record} {ending : Except StoreError Unit}
      {queue received : List (Except StoreError Record)} (room : queue.length < capacity) :
      Step capacity ⟨.finding (record :: records) ending, queue, .reading, received⟩
        ⟨.finding records ending, queue ++ [.ok record], .reading, received⟩
  | refuse {record : Record} {records : List Record} {ending : Except StoreError Unit}
      {queue received : List (Except StoreError Record)} :
      Step capacity ⟨.finding (record :: records) ending, queue, .gone, received⟩
        ⟨.failing (.other "record stream dropped"), queue, .gone, received⟩
  | succeed {queue received : List (Except StoreError Record)} {reader : Reader} :
      Step capacity ⟨.finding [] (.ok ()), queue, reader, received⟩ ⟨.done, queue, reader, received⟩
  | fail {error : StoreError} {queue received : List (Except StoreError Record)} {reader : Reader} :
      Step capacity ⟨.finding [] (.error error), queue, reader, received⟩
        ⟨.failing error, queue, reader, received⟩
  | report {error : StoreError} {queue received : List (Except StoreError Record)}
      (room : queue.length < capacity) :
      Step capacity ⟨.failing error, queue, .reading, received⟩
        ⟨.done, queue ++ [.error error], .reading, received⟩
  | giveUp {error : StoreError} {queue received : List (Except StoreError Record)} :
      Step capacity ⟨.failing error, queue, .gone, received⟩ ⟨.done, queue, .gone, received⟩
  | receive {producer : Producer} {item : Except StoreError Record}
      {queue received : List (Except StoreError Record)} :
      Step capacity ⟨producer, item :: queue, .reading, received⟩
        ⟨producer, queue, .reading, received ++ [item]⟩
  | finish {received : List (Except StoreError Record)} :
      Step capacity ⟨.done, [], .reading, received⟩ ⟨.done, [], .ended, received⟩
  | leave {producer : Producer} {queue received : List (Except StoreError Record)} :
      Step capacity ⟨producer, queue, .reading, received⟩ ⟨producer, [], .gone, received⟩

/-- A number of steps. -/
inductive Run (capacity : Nat) : Nat → Relay → Relay → Prop where
  | none (relay : Relay) : Run capacity 0 relay relay
  | next {count : Nat} {before middle after : Relay} (step : Step capacity before middle)
      (rest : Run capacity count middle after) : Run capacity (count + 1) before after

/-! ### Nothing is lost -/

/-- What was received, what waits and what is to come are the items, as long as the reader is there.
A reader that is gone has received the first of them. -/
structure Sound (items : List (Except StoreError Record)) (relay : Relay) : Prop where
  whole : relay.reader ≠ .gone → relay.received ++ relay.queue ++ relay.producer.rest = items
  front : relay.received <+: items
  ended : relay.reader = .ended → relay.producer = .done ∧ relay.queue = []

variable {capacity : Nat} {items : List (Except StoreError Record)} {before after : Relay}

theorem sound_start (query : FindQuery) (records : List Record) (ending : Except StoreError Unit) :
    (start query records ending).Sound (Producer.start query records ending).rest :=
  ⟨fun _ => rfl, List.nil_prefix, nofun⟩

/-- **A step loses nothing.** -/
theorem sound_step (step : Step capacity before after) (sound : before.Sound items) :
    after.Sound items := by
  obtain ⟨whole, front, ended⟩ := sound
  cases step with
  | offer room =>
    refine ⟨fun present => ?_, front, nofun⟩
    rw [← whole present]
    simp only [Producer.rest, Connection.items, List.map_cons, List.append_assoc, List.cons_append,
      List.nil_append]
  | succeed | fail =>
    exact ⟨fun present => whole present, front, fun read => nomatch (ended read).1⟩
  | report room =>
    refine ⟨fun present => ?_, front, nofun⟩
    rw [← whole present]
    simp only [Producer.rest, List.append_assoc, List.append_nil]
  | refuse | giveUp => exact ⟨fun present => absurd rfl present, front, nofun⟩
  | @receive producer item queue received =>
    have shifted : received ++ [item] ++ queue ++ producer.rest = items := by
      rw [← whole nofun, List.append_cons received item queue]
    refine ⟨fun _ => shifted, ?_, nofun⟩
    rw [← shifted, List.append_assoc]
    exact List.prefix_append _ _
  | finish => exact ⟨fun _ => whole nofun, front, fun _ => ⟨rfl, rfl⟩⟩
  | leave => exact ⟨fun present => absurd rfl present, front, nofun⟩

theorem sound_run {count : Nat} (run : Run capacity count before after)
    (sound : before.Sound items) : after.Sound items := by
  induction run with
  | none => exact sound
  | next step _ later => exact later (sound_step step sound)

/-- A reader that has read the end has received all items, and nothing happens any more. -/
theorem Sound.complete (sound : before.Sound items) (ended : before.reader = .ended) :
    before.received = items ∧ ∀ after, ¬Step capacity before after := by
  obtain ⟨producer, queue, reader, received⟩ := before
  obtain ⟨rfl, rfl⟩ := sound.ended ended
  cases ended
  refine ⟨?_, fun after step => by cases step⟩
  rw [← sound.whole nofun]
  simp only [Producer.rest, List.append_nil]

/-! ### Nothing gets stuck -/

/-- How often a task and a reader may act. -/
def work (relay : Relay) : Nat :=
  relay.producer.work + relay.queue.length + if relay.reader = .reading then 1 else 0

theorem work_step (step : Step capacity before after) : after.work < before.work := by
  cases step with
  -- Whether there is a reader does not matter where the task acts alone.
  | succeed | fail =>
    simp only [work, Producer.work, List.length_nil]
    omega
  | offer | refuse | report | giveUp | receive | finish | leave =>
    simp only [work, Producer.work, List.length_append, List.length_cons, List.length_nil,
      reduceCtorEq, if_true, if_false]
    omega

theorem work_run {count : Nat} (run : Run capacity count before after) :
    count + after.work ≤ before.work := by
  induction run with
  | none => exact Nat.le_of_eq (Nat.zero_add _)
  | next step _ later =>
    have less := work_step step
    omega

/-- **A reader is never stuck**: either it can read, or the task can go on. -/
theorem step_of_reading (positive : 0 < capacity) (reading : before.reader = .reading) :
    ∃ after, Step capacity before after ∧ after.reader ≠ .gone := by
  obtain ⟨producer, queue, _, received⟩ := before
  cases reading
  cases queue with
  | cons item queue => exact ⟨_, .receive, nofun⟩
  | nil =>
    match producer with
    | .done => exact ⟨_, .finish, nofun⟩
    | .failing error => exact ⟨_, .report positive, nofun⟩
    | .finding (record :: records) ending => exact ⟨_, .offer positive, nofun⟩
    | .finding [] (.ok ()) => exact ⟨_, .succeed, nofun⟩
    | .finding [] (.error error) => exact ⟨_, .fail, nofun⟩

end Relay

/-! ### All verbs -/

/-- **The verbs that read agree.** Let a backend offer records for a query with a class. A body is
called with the records up to the first one that it refuses, and its failure is the result;
otherwise the result is how the offer ends. The list holds all records, if the offer succeeds. A
stream is read to its end after finitely many steps, in whatever order the task and the reader act,
and gives all records and behind them the failure, if there is one; until then it gives the first of
these items, and the reader is never stuck. What comes first is the first record that is offered for
that. -/
theorem read_verbs_agree (connection : Connection σ κ) (query : FindQuery) (world : World σ)
    {className : String} (classed : query.requireClass = .ok className) {records : List Record}
    {ending : Except StoreError Unit}
    (offers : connection.backend.Offers connection.channel query world.store records ending) :
    (∀ (τ : Type) (body : Connection.Body τ) (start : τ),
      let outcome := (Id.run ((connection.forEach query body start).run world)).1
      let noted := (Id.run ((connection.forEach query body.noting ([], start)).run world)).1
      ∃ called, noted = (outcome.1, (called, outcome.2)) ∧
        body.Reads ending records start called outcome) ∧
    ((connection.toList query).outcome world).1 = ending.map (fun _ => records) ∧
    (let items := (Id.run ((connection.stream query).run world)).1
     items = Connection.items records ending ∧
      ∀ count relay, Relay.Run streamBuffer count (.start query records ending) relay →
        count ≤ 2 * records.length + 4 ∧ relay.received <+: items ∧
        (relay.reader = .ended →
          relay.received = items ∧ ∀ next, ¬Relay.Step streamBuffer relay next) ∧
        (relay.reader = .reading →
          ∃ next, Relay.Step streamBuffer relay next ∧ next.reader ≠ .gone)) ∧
    ∀ heads headEnding,
      connection.backend.Offers connection.channel query.first world.store heads headEnding →
      ((connection.first query).outcome world).1 = headEnding.map fun _ => heads.head? := by
  refine ⟨fun τ body start => ?_, Connection.fst_toList classed offers, ?_,
    fun heads headEnding offered => Connection.fst_first classed offered⟩
  · rw [Connection.fst_forEach classed offers, Connection.fst_forEach classed offers]
    exact Connection.Body.read_noting body ending records [] start
  · rw [Connection.fst_stream classed offers]
    refine ⟨rfl, fun count relay run => ?_⟩
    have begins : Producer.start query records ending = .finding records ending := by
      rw [Producer.start, classed]
    have sound := Relay.sound_run run (Relay.sound_start query records ending)
    have bounded := Relay.work_run run
    have enough : (Relay.start query records ending).work = 2 * records.length + 4 := by
      rw [Relay.work, Relay.start, begins]
      rfl
    rw [begins] at sound
    exact ⟨by omega, sound.front, sound.complete, Relay.step_of_reading (by decide)⟩

/-- Three players that a recording backend keeps. -/
def playersRecorded : Recording :=
  ⟨["Ann", "Bob", "Cid"].map fun name => ⟨"players", none, none, none, [("name", .text name)]⟩, [],
    false⟩

theorem read_verbs_agree_players :
    let connection : Connection Recording.Log Unit :=
      ⟨playersRecorded.backend, (), ⟨fun _ => "a", Instant.clampMilliseconds 0⟩⟩
    let query := { FindQuery.empty with className := some "players" }
    let world : World Recording.Log := ⟨0, []⟩
    let refusing := Connection.refusing (some 2)
    query.requireClass = .ok "players" ∧
    connection.backend.Offers () query world.store playersRecorded.records (.ok ()) ∧
    connection.backend.Offers () query.first world.store (playersRecorded.records.take 1) (.ok ()) ∧
    ((connection.toList query).outcome world).1 = .ok playersRecorded.records ∧
    (Id.run ((connection.stream query).run world)).1 = playersRecorded.records.map .ok ∧
    ((connection.first query).outcome world).1 = .ok playersRecorded.records.head? ∧
    refusing.Reads (.ok ()) playersRecorded.records [] (playersRecorded.records.take 2)
      (.error (.callback "stopped at 2"), playersRecorded.records.take 2) := by
  intro connection query world refusing
  have classed : query.requireClass = .ok "players" := rfl
  have offers : connection.backend.Offers () query world.store playersRecorded.records (.ok ()) :=
    Recording.offers playersRecorded query world.store
  have offersFirst : connection.backend.Offers () query.first world.store
      (playersRecorded.records.take 1) (.ok ()) :=
    Recording.offers playersRecorded query.first world.store
  obtain ⟨bodies, list, ⟨stream, -⟩, first⟩ :=
    read_verbs_agree connection query world classed offers
  refine ⟨classed, offers, offersFirst, list, stream.trans (List.append_nil _),
    first _ _ offersFirst, ?_⟩
  obtain ⟨called, noted, reads⟩ := bodies _ refusing []
  have two : called = playersRecorded.records.take 2 :=
    (congrArg (fun outcome => outcome.2.1) noted).symm
  rw [two] at reads
  exact reads

end TwinStore
