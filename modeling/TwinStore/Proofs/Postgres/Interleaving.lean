/-
**Two upserts at once.** Two clients, each with an upsert of its own, take steps in any order.

* `System`: the table and the two clients. `System.run`: what a schedule of steps makes of them.
* `Task.Progress`: where a client is that has neither failed nor committed. `steps_of_progress`: how
  it gets on in one step, and `progress_behind` what the other client's commit means to it.
* `Stage` is kept by every step of the two (`stage_step`), and so by every schedule (`stage_run`).
* `order_of_over`: what two clients leave behind that are both done.
* `exists_over`: every schedule can be continued until they are.
-/

import TwinStore.Proofs.Postgres.Isolation

namespace TwinStore.Postgres

variable {δ : Type} {engine : Engine δ}

/-! ### Systems -/

/-- One of two clients. -/
inductive Side where
  | left
  | right
  deriving DecidableEq

def Side.other : Side → Side
  | left => right
  | right => left

/-- A client, and its transaction. -/
structure Party (δ : Type) where
  transaction : Transaction (Sql.Row δ)
  client : Conversation (Except StoreError (Option Record))

/-- A client asks its next request, again if it has waited. -/
def Party.step (engine : Engine δ) (locked : String → Bool) (table : Fields (Sql.Row δ))
    (party : Party δ) : Fields (Sql.Row δ) × Party δ :=
  match party.client with
  | .done _ => (table, party)
  | .ask request next =>
    let (reply, access) := engine.answer locked ⟨table, party.transaction⟩ request
    (access.table, ⟨access.transaction, reply.elim party.client next⟩)

/-- There is nothing left to ask. -/
def Conversation.isDone {α : Type} : Conversation α → Bool
  | .done _ => true
  | .ask _ _ => false

/-- The committed rows of a table, and two clients. -/
structure System (δ : Type) where
  table : Fields (Sql.Row δ)
  party : Side → Party δ

namespace System

/-- The rows that the other client has written are locked. -/
def locked (system : System δ) (side : Side) (id : String) : Bool :=
  (system.party side.other).transaction.written.contains id

/-- A system in which one client has come to something. -/
def put (system : System δ) (side : Side) (came : Fields (Sql.Row δ) × Party δ) : System δ :=
  ⟨came.1, fun one => if one = side then came.2 else system.party one⟩

def step (engine : Engine δ) (system : System δ) (side : Side) : System δ :=
  system.put side ((system.party side).step engine (system.locked side) system.table)

/-- What a schedule of steps makes of a system. -/
def run (engine : Engine δ) (system : System δ) (schedule : List Side) : System δ :=
  schedule.foldl (step engine) system

/-- Two clients before their first steps. -/
def start (task : Side → Task engine) (table : Fields (Sql.Row δ)) : System δ :=
  ⟨table, fun side => ⟨.empty, (task side).statements.alone⟩⟩

/-- Both clients are done. -/
def Over (system : System δ) : Prop := ∀ side, (system.party side).client.isDone = true

end System

/-! ### One client -/

namespace Task

variable (task : Task engine) (seen table : Fields (Sql.Row δ))

/-- Where a client is that has neither failed nor committed, if its search began on a table as it
was seen, and how many steps are left if it waits for nothing. -/
inductive Progress : Nat → Party δ → Prop where
  | fresh : Progress 4 ⟨.empty, task.statements.alone⟩
  | begun : Progress 3 ⟨.empty, task.statements.updating⟩
  | waiting {skipped rest : List String} (split : task.search.found seen = skipped ++ rest)
      (unfit : ∀ id ∈ skipped, task.search.fitsIn table id = false) :
      Progress 3 ⟨⟨[], some rest⟩, task.statements.updating⟩
  | absent (missing : task.search.first? seen table = none) :
      Progress 2 ⟨.empty, task.statements.inserting⟩
  | changed {id : String} {row new : Sql.Row δ} {record : Option Record}
      (first : task.search.first? seen table = some id) (there : table.get? id = some row)
      (made : task.changed? row = some new) :
      Progress 1 ⟨⟨[(id, new)], none⟩, Upsert.ending (.ok record)⟩
  | created {row : Sql.Row δ} {record : Option Record}
      (missing : task.search.first? seen table = none) (made : task.created? table = some row) :
      Progress 1 ⟨⟨[(task.plan.insert.id, row)], none⟩, Upsert.ending (.ok record)⟩

/-- A client that is not going to write any more. -/
inductive Spent : Party δ → Prop where
  | lost {transaction : Transaction (Sql.Row δ)} {error : StoreError} :
      Spent ⟨transaction, Upsert.ending (.error error)⟩
  | done {result : Except StoreError (Option Record)} : Spent ⟨.empty, .done result⟩

/-- How a client gets on in one step: its search may begin, on the table as it is, it may fail
without a trace, or it commits. -/
inductive Steps (locked : String → Bool) (written : Fields (Sql.Row δ)) (left : Nat) :
    Fields (Sql.Row δ) × Party δ → Prop where
  | goes {begun : Fields (Sql.Row δ)} {party : Party δ} {later : Nat}
      (sees : begun = seen ∨ begun = table) (progress : task.Progress begun table later party)
      (closer : later < left ∨ ∃ id, locked id = true)
      (free : ∀ id, party.transaction.written.contains id = true → locked id = false) :
      Steps locked written left (table, party)
  | fails {begun : Fields (Sql.Row δ)} {party : Party δ} (sees : begun = seen ∨ begun = table)
      (same : task.turn begun table = table) (spent : Spent party) :
      Steps locked written left (table, party)
  | commits {id : String} {row : Sql.Row δ} {result : Except StoreError (Option Record)}
      (wrote : written = [(id, row)]) (made : task.turn seen table = table.insert id row) :
      Steps locked written left (table.insert id row, ⟨.empty, .done result⟩)

variable {task seen table}

theorem eq_of_contains {id other : String} {row : Sql.Row δ}
    (inside : Fields.contains [(id, row)] other = true) : other = id := by
  unfold Fields.contains Fields.get? at inside
  split at inside
  · next same => exact same.symm
  · cases inside

/-- A transaction that has written nothing has written no locked row. -/
theorem free_of_empty {locked : String → Bool} (id : String)
    (inside : Fields.contains ([] : Fields (Sql.Row δ)) id = true) : locked id = false :=
  absurd inside Bool.false_ne_true

/-- What became of a row that was found. -/
theorem turn_eq_changed {id : String} {row : Sql.Row δ}
    (first : task.search.first? seen table = some id) (there : table.get? id = some row) :
    task.turn seen table = (task.changed? row).elim table (table.insert id) := by
  rw [turn, first]
  show task.changeIn table id = _
  rw [changeIn, there]
  rfl

theorem turn_eq_created (missing : task.search.first? seen table = none) :
    task.turn seen table = task.insertIn table := by
  rw [turn, missing]

/-- How a client gets on with an update, whether it has begun to search or not. -/
theorem steps_of_updating (locked : String → Bool) {pending : Option (List String)}
    {begun : Fields (Sql.Row δ)} (skipped : List String) (sees : begun = seen ∨ begun = table)
    (split : task.search.found begun = skipped ++ pending.getD (task.search.found table))
    (unfit : ∀ id ∈ skipped, task.search.fitsIn table id = false) :
    task.Steps seen table locked [] 3 (Party.step engine locked table
      ⟨⟨[], pending⟩, task.statements.updating⟩) := by
  have resumes : task.search.first? begun table =
      (pending.getD (task.search.found table)).find? (task.search.fitsIn table) := by
    rw [Search.first?, split, List.find?_append, List.find?_eq_none.mpr (by simpa using unfit)]
    rfl
  have searches := task.searches_update table locked pending
  unfold Party.step Upsert.updating
  simp only
  generalize engine.answer locked ⟨table, ⟨[], pending⟩⟩ (.run task.statements.update) = outcome
    at searches
  cases searches with
  | @waits later rest again others held =>
    obtain ⟨id, -, held⟩ := held
    have all : task.search.found begun = (skipped ++ later) ++ rest := by
      rw [split, again, List.append_assoc]
    exact .goes sees (.waiting all (List.forall_mem_append.mpr ⟨unfit, others⟩)) (.inr ⟨id, held⟩)
      free_of_empty
  | absent missing =>
    exact .goes sees (.absent (resumes.trans missing)) (.inl (by decide)) free_of_empty
  | changes first there free writes =>
    have found := resumes.trans first
    cases writes with
    | kept made ending =>
      show task.Steps seen table locked [] 3 (table, ⟨_, task.statements.updated _⟩)
      rw [ending]
      exact .goes sees (.changed found there made) (.inl (by decide))
        fun other inside => eq_of_contains inside ▸ free
    | lost made ending =>
      show task.Steps seen table locked [] 3 (table, ⟨_, task.statements.updated _⟩)
      rw [ending]
      refine .fails sees ?_ .lost
      rw [turn_eq_changed found there, made]
      rfl

/-- How a client gets on with an insertion. -/
theorem steps_of_inserting (locked : String → Bool)
    (missing : task.search.first? seen table = none) :
    task.Steps seen table locked [] 2 (Party.step engine locked table
      ⟨.empty, task.statements.inserting⟩) := by
  unfold Party.step Upsert.inserting
  simp only
  cases free : locked task.plan.insert.id with
  | true =>
    have waits : engine.answer locked ⟨table, .empty⟩ (.run task.statements.insert) =
        (none, ⟨table, .empty⟩) := by
      rw [Engine.answer, task.inserts, Engine.answerTo, if_pos free]
    rw [waits]
    exact .goes (.inl rfl) (.absent missing) (.inr ⟨_, free⟩) free_of_empty
  | false =>
    have writes := task.writes_insert table free
    generalize engine.answer locked ⟨table, .empty⟩ (.run task.statements.insert) = outcome
      at writes
    cases writes with
    | @kept reply row record made ending =>
      show task.Steps seen table locked [] 2 (table, ⟨_, (Upsert.ending ∘ _) reply⟩)
      rw [ending]
      exact .goes (.inl rfl) (.created missing made) (.inl (by decide))
        fun other inside => eq_of_contains inside ▸ free
    | @lost reply transaction error made ending =>
      show task.Steps seen table locked [] 2 (table, ⟨_, (Upsert.ending ∘ _) reply⟩)
      rw [ending]
      refine .fails (.inl rfl) ?_ .lost
      rw [turn_eq_created missing, insertIn, made]
      rfl

/-- **How a client gets on** in one step. -/
theorem steps_of_progress (locked : String → Bool) {left : Nat} {party : Party δ}
    (progress : task.Progress seen table left party) :
    task.Steps seen table locked party.transaction.written left
      (party.step engine locked table) := by
  cases progress with
  | fresh =>
    unfold Party.step
    rw [Upsert.alone_eq]
    exact .goes (.inl rfl) .begun (.inl (by decide)) free_of_empty
  | begun => exact steps_of_updating locked [] (.inr rfl) rfl (List.forall_mem_nil _)
  | waiting split unfit => exact steps_of_updating locked _ (.inl rfl) split unfit
  | absent missing => exact steps_of_inserting locked missing
  | changed first there made =>
    refine .commits rfl ?_
    rw [turn_eq_changed first there, made]
    rfl
  | created missing made =>
    refine .commits rfl ?_
    rw [turn_eq_created missing, insertIn, made]
    rfl

/-- A client that is not going to write leaves the table alone. -/
theorem spent_step (engine : Engine δ) (table : Fields (Sql.Row δ)) (locked : String → Bool)
    {party : Party δ} (spent : Spent party) :
    ∃ later, party.step engine locked table = (table, later) ∧ Spent later := by
  cases spent with
  | lost => exact ⟨_, rfl, .done⟩
  | done => exact ⟨_, rfl, .done⟩

/-- A client whose update has begun and that has not failed yet: it waits for a row, or is going to
insert or to commit. -/
def Midway (task : Task engine) (party : Party δ) : Prop :=
  party.client = task.statements.updating ∧ party.transaction.pending.isSome = true ∨
    party.client = task.statements.inserting ∨
    ∃ record, party.client = Upsert.ending (.ok record)

/-- A client that has written a row is going to commit it. -/
theorem midway_of_written {left : Nat} {party : Party δ}
    (progress : task.Progress seen table left party) (written : party.transaction.written ≠ []) :
    task.Midway party := by
  cases progress with
  | changed | created => exact .inr (.inr ⟨_, rfl⟩)
  | _ => exact absurd rfl written

/-- **What the other client's commit means to a client.** If its update has not begun, nothing; else
it goes on with what it saw before. -/
theorem progress_behind {start : Fields (Sql.Row δ)} (sorted : Fields.Sorted start)
    {left : Nat} {party : Party δ} (progress : task.Progress start start left party) {id : String}
    (row : Sql.Row δ) (apart : party.transaction.written.contains id = false) :
    task.Progress (start.insert id row) (start.insert id row) left party ∨
      task.Midway party ∧ task.Progress start (start.insert id row) left party := by
  have nothing : task.search.first? start start = none →
      task.search.first? start (start.insert id row) = none := by
    rw [Search.first?_self sorted, List.head?_eq_none_iff, Search.first?]
    intro missing
    rw [missing]
    rfl
  have others : ∀ {other : String} {written : Sql.Row δ},
      Fields.contains [(other, written)] id = false →
        (start.insert id row).get? other = start.get? other := by
    intro other written apart
    rw [Fields.get?_insert, if_neg]
    rintro rfl
    simp [Fields.contains, Fields.get?] at apart
  cases progress with
  | fresh => exact .inl .fresh
  | begun => exact .inl .begun
  | @waiting skipped rest split unfit =>
    -- Nothing is skipped in the table that was seen.
    obtain rfl : skipped = [] := by
      refine List.eq_nil_iff_forall_not_mem.mpr fun other inside => ?_
      have fit := (Search.mem_found sorted).mp (split ▸ List.mem_append_left rest inside)
      exact absurd fit (by simp [unfit other inside])
    exact .inr ⟨.inl ⟨rfl, rfl⟩, .waiting split (List.forall_mem_nil _)⟩
  | absent missing => exact .inr ⟨.inr (.inl rfl), .absent (nothing missing)⟩
  | @changed other old new record first there made =>
    refine .inr ⟨.inr (.inr ⟨_, rfl⟩), .changed ?_ ((others apart).trans there) made⟩
    have fit := List.find?_some first
    rw [Search.first?_self sorted, List.head?_eq_some_iff] at first
    obtain ⟨rest, found⟩ := first
    rw [Search.first?, found]
    refine List.find?_cons_of_pos ?_
    rwa [Search.fitsIn, others apart]
  | @created new record missing made =>
    refine .inr ⟨.inr (.inr ⟨_, rfl⟩), .created (nothing missing) ?_⟩
    rwa [created?, Fields.contains, others apart]

end Task

/-! ### Two clients -/

theorem Side.other_ne (side : Side) : side.other ≠ side := by cases side <;> decide

theorem Side.eq_or_other (side one : Side) : one = side ∨ one = side.other := by
  cases side <;> cases one <;> decide

theorem Side.other_other (side : Side) : side.other.other = side := by cases side <;> rfl

/-- What holds of a side and of the other one holds of both. -/
theorem Side.forall_of {p : Side → Prop} (side : Side) (one : p side) (two : p side.other) :
    ∀ side, p side := by
  intro other
  obtain rfl | rfl := side.eq_or_other other
  · exact one
  · exact two

namespace System

variable (system : System δ) (side : Side) (came : Fields (Sql.Row δ) × Party δ)

theorem put_self : (system.put side came).party side = came.2 := if_pos rfl

theorem put_other : (system.put side came).party side.other = system.party side.other :=
  if_neg side.other_ne

end System

section Stages

variable (task : Side → Task engine) (start : Fields (Sql.Row δ))

/-- Both updates had begun before either client was over. -/
def Overlap (schedule : List Side) : Prop :=
  ∃ early late, schedule = early ++ late ∧
    ∀ side, (task side).Midway (((System.start task start).run engine early).party side)

/-- One client came first. The search of the other one began behind it, or before when both were at
work. -/
structure Order (schedule : List Side) (first : Side) (seen after : Fields (Sql.Row δ)) : Prop where
  turned : after = (task first).turn start start
  sees : seen = after ∨ seen = start ∧ Overlap task start schedule

/-- How far two clients have come. -/
inductive Stage (schedule : List Side) (system : System δ) : Prop where
  /-- Neither has written anything for good. -/
  | both {left : Side → Nat} (table : system.table = start)
      (progress : ∀ side, (task side).Progress start start (left side) (system.party side))
      (apart : ∀ side id, (system.party side).transaction.written.contains id = true →
        (system.party side.other).transaction.written.contains id = false)
  | second {first : Side} {seen : Fields (Sql.Row δ)} {left : Nat}
      (order : Order task start schedule first seen system.table)
      (spent : Task.Spent (system.party first))
      (progress : (task first.other).Progress seen system.table left (system.party first.other))
  | neither {first : Side} {seen after : Fields (Sql.Row δ)}
      (order : Order task start schedule first seen after)
      (table : system.table = (task first.other).turn seen after)
      (spent : ∀ side, Task.Spent (system.party side))

variable {task start} {schedule : List Side} {first side : Side}
  {seen after : Fields (Sql.Row δ)} {system : System δ}

/-- Later steps do not change which client came first. -/
theorem Order.later (order : Order task start schedule first seen after) (side : Side) :
    Order task start (schedule ++ [side]) first seen after where
  turned := order.turned
  sees := by
    refine order.sees.imp_right fun ⟨same, early, late, split, midway⟩ =>
      ⟨same, early, late ++ [side], ?_, midway⟩
    rw [split, List.append_assoc]

/-- A step of the client that comes second. -/
theorem stage_of_second {left : Nat} (order : Order task start schedule first seen system.table)
    (spent : Task.Spent (system.party first))
    (progress : (task first.other).Progress seen system.table left (system.party first.other)) :
    Stage task start (schedule ++ [first.other]) (system.step engine first.other) := by
  have steps := Task.steps_of_progress (system.locked first.other) progress
  have again : ∀ {begun : Fields (Sql.Row δ)}, begun = seen ∨ begun = system.table →
      Order task start (schedule ++ [first.other]) first begun system.table := by
    rintro _ (rfl | rfl)
    · exact order.later _
    · exact ⟨order.turned, .inl rfl⟩
  unfold System.step
  generalize (system.party first.other).step engine (system.locked first.other) system.table =
    came at steps
  have kept : (system.put first.other came).party first = system.party first :=
    if_neg first.other_ne.symm
  cases steps with
  | @goes begun party fewer sees later closer free =>
    have self : (system.put first.other (system.table, party)).party first.other = party :=
      System.put_self ..
    exact .second (again sees) (kept.symm ▸ spent) (self.symm ▸ later)
  | fails sees same lost =>
    refine .neither (again sees) same.symm (Side.forall_of _ (by rwa [kept]) ?_)
    rw [System.put_self]
    exact lost
  | commits wrote made =>
    refine .neither (order.later _) made.symm (Side.forall_of _ (by rwa [kept]) ?_)
    rw [System.put_self]
    exact .done

/-- A step of a client that is not going to write any more. -/
theorem exists_put_of_spent (engine : Engine δ) (spent : Task.Spent (system.party side)) :
    ∃ party, system.step engine side = system.put side (system.table, party) ∧
      Task.Spent party := by
  obtain ⟨party, stepped, later⟩ :=
    Task.spent_step engine system.table (system.locked side) spent
  exact ⟨party, by rw [System.step, stepped], later⟩

/-- The first commit. The other client goes on as if it began behind it, or both were at work. -/
theorem stage_of_commit {left : Side → Nat} (sorted : Fields.Sorted start)
    (reached : system = (System.start task start).run engine schedule)
    (progress : ∀ side, (task side).Progress start start (left side) (system.party side))
    {id : String} {row : Sql.Row δ} {result : Except StoreError (Option Record)}
    (wrote : (system.party side).transaction.written = [(id, row)])
    (made : (task side).turn start start = start.insert id row)
    (apart : (system.party side.other).transaction.written.contains id = false) :
    Stage task start (schedule ++ [side])
      (system.put side (start.insert id row, ⟨.empty, .done result⟩)) := by
  have other := System.put_other system side (start.insert id row, ⟨.empty, .done result⟩)
  have self := System.put_self system side (start.insert id row, ⟨.empty, .done result⟩)
  obtain untouched | ⟨midway, late⟩ := Task.progress_behind sorted (progress side.other) row apart
  · have order : Order task start (schedule ++ [side]) side (start.insert id row)
        (start.insert id row) := ⟨made.symm, .inl rfl⟩
    exact .second order (self ▸ .done) (other ▸ untouched)
  · have committing : (task side).Midway (system.party side) :=
      Task.midway_of_written (progress side) (by simp [wrote])
    have overlap : Overlap task start (schedule ++ [side]) :=
      ⟨schedule, [side], rfl, reached ▸ Side.forall_of side committing midway⟩
    have order : Order task start (schedule ++ [side]) side start (start.insert id row) :=
      ⟨made.symm, .inr ⟨rfl, overlap⟩⟩
    exact .second order (self ▸ .done) (other ▸ late)

/-- A step of a client, while neither has written anything for good. -/
theorem stage_of_both {left : Side → Nat} (sorted : Fields.Sorted start)
    (reached : system = (System.start task start).run engine schedule)
    (table : system.table = start)
    (progress : ∀ side, (task side).Progress start start (left side) (system.party side))
    (apart : ∀ side id, (system.party side).transaction.written.contains id = true →
      (system.party side.other).transaction.written.contains id = false) (side : Side) :
    Stage task start (schedule ++ [side]) (system.step engine side) := by
  have steps := Task.steps_of_progress (system.locked side) (progress side)
  unfold System.step
  rw [table]
  generalize (system.party side).step engine (system.locked side) start = came at steps
  cases steps with
  | @goes begun party fewer sees later closer free =>
    obtain rfl : begun = start := sees.elim id id
    have both : ∀ one, ∃ left, (task one).Progress begun begun left
        ((system.put side (begun, party)).party one) := by
      refine Side.forall_of side ⟨fewer, ?_⟩ ⟨left side.other, ?_⟩
      · rw [System.put_self]
        exact later
      · rw [System.put_other]
        exact progress side.other
    choose lefts both using both
    refine .both rfl both (Side.forall_of side ?_ ?_)
    · intro id inside
      rw [System.put_self] at inside
      rw [System.put_other]
      exact free id inside
    · intro id inside
      rw [Side.other_other, System.put_self]
      rw [System.put_other] at inside
      by_contra both
      have none_ := free id (Bool.not_eq_false _ ▸ both)
      exact absurd inside (by simpa [System.locked] using none_)
  | @fails begun party sees same lost =>
    obtain rfl : begun = start := sees.elim id id
    have order : Order task begun (schedule ++ [side]) side begun begun := ⟨same.symm, .inl rfl⟩
    exact .second order ((System.put_self ..).symm ▸ lost)
      ((System.put_other ..).symm ▸ progress side.other)
  | commits wrote made =>
    refine stage_of_commit sorted reached progress wrote made (apart side _ ?_)
    rw [wrote]
    simp [Fields.contains, Fields.get?]

/-- **Every step of two clients** keeps them at a stage. -/
theorem stage_step (sorted : Fields.Sorted start)
    (reached : system = (System.start task start).run engine schedule)
    (stage : Stage task start schedule system) (side : Side) :
    Stage task start (schedule ++ [side]) (system.step engine side) := by
  cases stage with
  | both table progress apart => exact stage_of_both sorted reached table progress apart side
  | @second first seen left order spent progress =>
    obtain rfl | rfl := first.eq_or_other side
    · obtain ⟨party, stepped, later⟩ := exists_put_of_spent engine spent
      rw [stepped]
      exact .second (order.later side) ((System.put_self ..).symm ▸ later)
        ((System.put_other ..).symm ▸ progress)
    · exact stage_of_second order spent progress
  | neither order table spent =>
    obtain ⟨party, stepped, later⟩ := exists_put_of_spent engine (spent side)
    rw [stepped]
    refine .neither (order.later side) table (Side.forall_of side ?_ ?_)
    · rw [System.put_self]
      exact later
    · rw [System.put_other]
      exact spent side.other

/-- **Every schedule brings two clients to a stage.** -/
theorem stage_run (sorted : Fields.Sorted start) (schedule : List Side) :
    Stage task start schedule ((System.start task start).run engine schedule) := by
  induction schedule using List.reverseRecOn with
  | nil => exact .both rfl (fun _ => .fresh) nofun
  | append_singleton schedule side step =>
    rw [System.run, List.foldl_append]
    exact stage_step sorted rfl step side

/-- A client that has neither failed nor committed is not done. -/
theorem not_isDone {task : Task engine} {left : Nat} {party : Party δ}
    (progress : task.Progress seen after left party) : ¬party.client.isDone = true := by
  cases progress with
  | fresh =>
    rw [Upsert.alone_eq]
    exact Bool.false_ne_true
  | _ => exact Bool.false_ne_true

/-- What two clients leave behind that are both done. -/
theorem order_of_over (sorted : Fields.Sorted start)
    (finished : ((System.start task start).run engine schedule).Over) :
    ∃ first seen after, Order task start schedule first seen after ∧
      ((System.start task start).run engine schedule).table =
        (task first.other).turn seen after := by
  cases stage_run sorted schedule with
  | both table progress apart => exact absurd (finished .left) (not_isDone (progress .left))
  | @second first seen left order spent progress =>
    exact absurd (finished first.other) (not_isDone progress)
  | neither order table spent => exact ⟨_, _, _, order, table⟩

/-! ### No deadlock -/

/-- A client that is done, with nothing left in its transaction. -/
structure Done (party : Party δ) : Prop where
  client : party.client.isDone = true
  transaction : party.transaction.written = []

/-- A client that is not going to write is done after one more step. -/
theorem done_of_spent (spent : Task.Spent (system.party side)) :
    Done ((system.step engine side).party side) := by
  have self := System.put_self system side
    ((system.party side).step engine (system.locked side) system.table)
  rw [System.step, self]
  generalize system.party side = party at spent
  cases spent <;> exact ⟨rfl, rfl⟩

/-- So is one that has written a row. -/
theorem done_of_written {task : Task engine} {left : Nat}
    (progress : task.Progress seen system.table left (system.party side))
    (written : (system.party side).transaction.written ≠ []) :
    Done ((system.step engine side).party side) := by
  have self := System.put_self system side
    ((system.party side).step engine (system.locked side) system.table)
  rw [System.step, self]
  generalize system.party side = party at progress written
  cases progress with
  | changed | created => exact ⟨rfl, rfl⟩
  | _ => exact absurd rfl written

/-- A client that waits for nothing gets done. -/
theorem exists_done {task : Task engine} {left : Nat}
    (free : (system.party side.other).transaction.written = [])
    (progress : task.Progress seen system.table left (system.party side)) :
    ∃ count, let later := system.run engine (List.replicate count side)
      Done (later.party side) ∧ later.party side.other = system.party side.other := by
  induction left using Nat.strong_induction_on generalizing seen system with
  | _ left step =>
    have steps := Task.steps_of_progress (system.locked side) progress
    have stepped : system.step engine side = system.put side _ := rfl
    generalize (system.party side).step engine (system.locked side) system.table = came
      at steps stepped
    have self := System.put_self system side came
    have other := System.put_other system side came
    cases steps with
    | @goes begun party fewer sees later closer unlocked =>
      have less : fewer < left := by
        refine closer.resolve_right fun ⟨id, held⟩ => ?_
        rw [System.locked, free] at held
        cases held
      have next : task.Progress begun (system.put side (system.table, party)).table fewer
          ((system.put side (system.table, party)).party side) := by rwa [self]
      obtain ⟨count, done, same⟩ := step fewer less (by rwa [other]) next
      refine ⟨count + 1, ?_⟩
      rw [List.replicate_succ, System.run, List.foldl_cons, stepped]
      exact ⟨done, same.trans other⟩
    | @fails begun party sees same spent =>
      refine ⟨2, ?_⟩
      show Done (((system.step engine side).step engine side).party side) ∧
        ((system.step engine side).step engine side).party side.other = _
      rw [stepped]
      refine ⟨done_of_spent (self.symm ▸ spent), ?_⟩
      rw [System.step, System.put_other, other]
    | commits wrote made =>
      refine ⟨1, ?_⟩
      show Done ((system.step engine side).party side) ∧
        (system.step engine side).party side.other = _
      rw [stepped, self, other]
      exact ⟨⟨rfl, rfl⟩, rfl⟩

/-- At every stage, a client is under way or is not going to write any more. -/
theorem Stage.live (stage : Stage task start schedule system) (side : Side) :
    (∃ seen left, (task side).Progress seen system.table left (system.party side)) ∨
      Task.Spent (system.party side) := by
  cases stage with
  | both table progress apart => exact .inl ⟨_, _, table ▸ progress side⟩
  | @second first seen left order spent progress =>
    obtain rfl | rfl := first.eq_or_other side
    · exact .inr spent
    · exact .inl ⟨_, _, progress⟩
  | neither order table spent => exact .inr (spent side)

/-- A client gets done if the other one has written nothing, or it has written itself. -/
theorem Stage.exists_done (stage : Stage task start schedule system) (side : Side)
    (free : (system.party side.other).transaction.written = [] ∨
      (system.party side).transaction.written ≠ []) :
    ∃ count, let later := system.run engine (List.replicate count side)
      Done (later.party side) ∧ later.party side.other = system.party side.other := by
  have single : Done ((system.step engine side).party side) →
      ∃ count, let later := system.run engine (List.replicate count side)
        Done (later.party side) ∧ later.party side.other = system.party side.other :=
    fun done => ⟨1, done, System.put_other ..⟩
  obtain ⟨seen, left, progress⟩ | spent := stage.live side
  · obtain nothing | written := free
    · exact Postgres.exists_done nothing progress
    · exact single (done_of_written progress written)
  · exact single (done_of_spent spent)

/-- **No schedule ends in a deadlock**: it can be continued until both clients are done. -/
theorem exists_over (sorted : Fields.Sorted start) (schedule : List Side) :
    ∃ late, ((System.start task start).run engine (schedule ++ late)).Over := by
  have stage : ∀ schedule,
      Stage task start schedule ((System.start task start).run engine schedule) := stage_run sorted
  obtain ⟨side, free⟩ : ∃ side : Side,
      (((System.start task start).run engine schedule).party side.other).transaction.written = [] ∨
        (((System.start task start).run engine schedule).party side).transaction.written ≠ [] := by
    by_cases nothing :
        (((System.start task start).run engine schedule).party .right).transaction.written = []
    · exact ⟨.left, .inl nothing⟩
    · exact ⟨.right, .inr nothing⟩
  obtain ⟨count, done, -⟩ := (stage schedule).exists_done side free
  have further : ∀ late, (System.start task start).run engine (schedule ++ late) =
      ((System.start task start).run engine schedule).run engine late := fun late =>
    List.foldl_append
  rw [← further] at done
  obtain ⟨more, last, same⟩ :=
    (stage (schedule ++ List.replicate count side)).exists_done side.other
      (.inl (by rw [Side.other_other]; exact done.transaction))
  rw [Side.other_other] at same
  refine ⟨List.replicate count side ++ List.replicate more side.other, ?_⟩
  rw [← List.append_assoc, System.run, List.foldl_append]
  exact Side.forall_of side (by rw [← System.run, ← System.run, same]; exact done.client)
    last.client

end Stages

end TwinStore.Postgres
