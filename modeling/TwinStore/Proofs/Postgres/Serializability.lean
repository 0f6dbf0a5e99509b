/-
**What two upserts at once leave behind.** With the same filter it is what they leave behind one
after the other, unless both had begun to update before either was over.

* `turn_behind`: when a search that began too early finds another record.
* `exists_new`: when there is one new record at most.
* `concurrent_upserts` is the main result.
-/

import TwinStore.Proofs.Postgres.Interleaving
import TwinStore.Proofs.Sql.Condition

namespace TwinStore.Postgres

variable {δ : Type} {engine : Engine δ}

/-! ### Late searches -/

/-- Neither upsert finds a record, and the later one inserts its record though that of the first one
fits. -/
structure Duplicates (one two : Task engine) (start after final : Fields (Sql.Row δ)) : Prop where
  nothing : one.search.found start = []
  created : ∃ row, one.created? start = some row ∧ one.search.fits row = true ∧
    after = start.insert one.plan.insert.id row
  final : final = two.insertIn after

/-- The later upsert changes the record that it found first at the start. The record still fits, but
another one has come before it. -/
structure Overtaken (two : Task engine) (start after : Fields (Sql.Row δ)) (kept : String)
    (final : Fields (Sql.Row δ)) : Prop where
  found : (two.search.found start).head? = some kept
  fits : two.search.fitsIn after kept = true
  passed : (two.search.found after).head? ≠ some kept
  final : final = two.changeIn after kept

section Late

variable {one two : Task engine} {start : Fields (Sql.Row δ)}

/-- A late search behind an insertion, where nothing was found. -/
theorem turn_behind_insertion (sorted : Fields.Sorted start)
    (same : one.search.fits = two.search.fits) (nothing : one.search.found start = []) :
    let after := one.turn start start
    two.turn start after = two.turn after after ∨
      Duplicates one two start after (two.turn start after) := by
  intro after
  have missing : two.search.found start = [] := (Search.found_eq_nil same).mp nothing
  have late : ∀ table, two.search.first? start table = none := fun table => by
    rw [Search.first?, missing]
    rfl
  have made : after = one.insertIn start :=
    Task.turn_eq_created (by rw [Search.first?, nothing]; rfl)
  cases created : one.created? start with
  | none =>
    have unchanged : after = start := by rw [made, Task.insertIn, created]; rfl
    exact .inl (by rw [unchanged])
  | some row =>
    have grown : after = start.insert one.plan.insert.id row := by
      rw [made, Task.insertIn, created]
      rfl
    cases fit : one.search.fits row with
    | true => exact .inr ⟨nothing, ⟨row, created, fit, grown⟩, Task.turn_eq_created (late after)⟩
    | false =>
      refine .inl ?_
      have again : two.search.first? after after = none := by
        rw [Search.first?, grown, Search.found_insert_of_unfit sorted _ (same ▸ fit), missing]
        rfl
      rw [Task.turn_eq_created (late after), Task.turn_eq_created again]

/-- A late search behind a change of the first record. -/
theorem turn_behind_change (sorted : Fields.Sorted start)
    (same : one.search.fits = two.search.fits) {id : String} {row new : Sql.Row δ}
    (there : start.get? id = some row) (fit : one.search.fits row = true) :
    let after := start.insert id new
    two.turn start after = two.turn after after ∨
      ∃ kept, Overtaken two start after kept (two.turn start after) := by
  intro after
  have later : Fields.Sorted after := Fields.sorted_insert sorted id new
  have changed : ∀ other, after.get? other = if id = other then some new else start.get? other :=
    Fields.get?_insert start id new
  cases stays : two.search.fits new with
  | true =>
    have fits : ∀ other ∈ two.search.found start, two.search.fitsIn after other = true := by
      intro other found
      have before := (Search.mem_found sorted).mp found
      rw [Search.fitsIn, changed]
      split
      · exact stays
      · exact before
    have inside : id ∈ two.search.found start :=
      (Search.mem_found sorted).mpr (Search.fitsIn_eq_true.mpr ⟨row, there, same ▸ fit⟩)
    cases found : two.search.found start with
    | nil =>
      rw [found] at inside
      cases inside
    | cons kept rest =>
      have still := fits kept (found ▸ List.mem_cons_self)
      have late : two.search.first? start after = some kept := by
        rw [Search.first?, found]
        exact List.find?_cons_of_pos still
      have turned : two.turn start after = two.changeIn after kept := by rw [Task.turn, late]
      by_cases ahead : (two.search.found after).head? = some kept
      · refine .inl ?_
        rw [turned, Task.turn, Search.first?_self later, ahead]
      · exact .inr ⟨kept, by rw [found]; rfl, still, ahead, turned⟩
  | false =>
    -- What is left of the rows that were found is what a new search finds.
    have left : (two.search.found start).filter (two.search.fitsIn after) =
        two.search.found after := by
      rw [Search.found_insert_of_unfit sorted id stays]
      refine List.filter_congr fun other found => ?_
      have before := (Search.mem_found sorted).mp found
      rw [Search.fitsIn, changed]
      split
      · next gone => simp [gone, stays]
      · next other_ => exact before.trans (decide_eq_true (Ne.symm other_)).symm
    refine .inl ?_
    have again : two.search.first? start after = two.search.first? after after := by
      rw [Search.first?_self later, ← left, List.head?_filter]
      rfl
    rw [Task.turn, Task.turn, again]

/-- **When it matters that a search began too early.** -/
theorem turn_behind (sorted : Fields.Sorted start) (same : one.search.fits = two.search.fits) :
    let after := one.turn start start
    two.turn start after = two.turn after after ∨
      Duplicates one two start after (two.turn start after) ∨
      ∃ kept, Overtaken two start after kept (two.turn start after) := by
  intro after
  cases found : one.search.found start with
  | nil => exact (turn_behind_insertion sorted same found).imp_right .inl
  | cons id rest =>
    obtain ⟨row, there, fit⟩ := Search.fitsIn_eq_true.mp
      ((Search.mem_found sorted).mp (found ▸ List.mem_cons_self))
    have first : one.search.first? start start = some id := by
      rw [Search.first?_self sorted, found]
      rfl
    have made : after = (one.changed? row).elim start (start.insert id) :=
      Task.turn_eq_changed first there
    cases changed : one.changed? row with
    | none =>
      have unchanged : after = start := by rw [made, changed]; rfl
      exact .inl (by rw [unchanged])
    | some new =>
      have renewed : after = start.insert id new := by rw [made, changed]; rfl
      rw [renewed]
      exact (turn_behind_change sorted same there fit).imp_right .inr

end Late

/-! ### New records -/

section New

variable {task one two : Task engine} {seen table start : Fields (Sql.Row δ)}

/-- A change makes no new record. -/
theorem contains_changeIn {id other : String}
    (inside : (task.changeIn table id).contains other = true) : table.contains other = true := by
  unfold Task.changeIn at inside
  cases there : table.get? id with
  | none => rwa [there] at inside
  | some row =>
    cases made : task.changed? row with
    | none => rwa [there, Option.bind_some, made] at inside
    | some new =>
      rw [there, Option.bind_some, made, Option.elim_some, Fields.contains, Fields.get?_insert]
        at inside
      split at inside
      · next same => rw [← same, Fields.contains, there]; rfl
      · exact inside

/-- An insertion makes one at most. -/
theorem contains_insertIn {other : String} (inside : (task.insertIn table).contains other = true) :
    table.contains other = true ∨ other = task.plan.insert.id := by
  unfold Task.insertIn at inside
  cases made : task.created? table with
  | none =>
    rw [made] at inside
    exact .inl inside
  | some row =>
    rw [made, Option.elim_some, Fields.contains, Fields.get?_insert] at inside
    split at inside
    · next same => exact .inr same.symm
    · exact .inl inside

theorem contains_turn {other : String} (inside : (task.turn seen table).contains other = true) :
    table.contains other = true ∨ other = task.plan.insert.id := by
  unfold Task.turn at inside
  split at inside
  · exact .inl (contains_changeIn inside)
  · exact contains_insertIn inside

/-- An upsert that finds a record makes no new one. -/
theorem contains_turn_of_found (found : ∃ id, task.search.fitsIn table id = true)
    (sorted : Fields.Sorted table) {other : String}
    (inside : (task.turn table table).contains other = true) : table.contains other = true := by
  obtain ⟨id, fits⟩ := found
  have member := (Search.mem_found sorted).mpr fits
  unfold Task.turn at inside
  rw [Search.first?_self sorted] at inside
  cases found : task.search.found table with
  | nil =>
    rw [found] at member
    cases member
  | cons first rest =>
    rw [found] at inside
    exact contains_changeIn inside

theorem eq_planned {row : Sql.Row δ} (created : task.created? table = some row) :
    row = task.planned := by
  unfold Task.created? at created
  repeat' split at created
  all_goals cases created
  rfl

/-- **One new record at most**, if some record fits at the start or the later search sees what the
first upsert has planned. -/
theorem exists_new (sorted : Fields.Sorted start) (same : one.search.fits = two.search.fits)
    (planned : one.search.fits one.planned = true)
    (sees : (∃ id, one.search.fitsIn start id = true) ∨ seen = one.turn start start) :
    ∃ new, ∀ id, (two.turn seen (one.turn start start)).contains id = true →
      start.contains id = true ∨ id = new := by
  by_cases found : ∃ id, one.search.fitsIn start id = true
  · refine ⟨two.plan.insert.id, fun id inside => ?_⟩
    exact (contains_turn inside).imp_left (contains_turn_of_found found sorted)
  · obtain rfl := sees.resolve_left found
    have missing : one.search.first? start start = none := by
      rw [Search.first?_self sorted, List.head?_eq_none_iff, List.eq_nil_iff_forall_not_mem]
      exact fun id member => found ⟨id, (Search.mem_found sorted).mp member⟩
    rw [Task.turn_eq_created missing]
    cases created : one.created? start with
    | none =>
      have unchanged : one.insertIn start = start := by rw [Task.insertIn, created]; rfl
      rw [unchanged]
      exact ⟨two.plan.insert.id, fun id inside => contains_turn inside⟩
    | some row =>
      have grown : one.insertIn start = start.insert one.plan.insert.id row := by
        rw [Task.insertIn, created]
        rfl
      have fits : two.search.fitsIn (one.insertIn start) one.plan.insert.id = true := by
        rw [grown, Search.fitsIn, Fields.get?_insert, if_pos rfl, eq_planned created, ← same]
        exact planned
      have later : Fields.Sorted (one.insertIn start) := by
        rw [grown]
        exact Fields.sorted_insert sorted _ row
      refine ⟨one.plan.insert.id, fun id inside => ?_⟩
      exact contains_insertIn (contains_turn_of_found ⟨_, fits⟩ later inside)

end New

/-! ### The result of two upserts -/

/-- **Two upserts with the same filter** leave behind what one of them makes of the table and then
the other, in some order, unless both had begun to update before either was over. What else they may
leave behind then: no record had fitted, and both have inserted one though the first one fits; or
the later one has changed the record that came first at the start, though another one has come
before it. If the planned records fit, there is one new record at most, unless no record had fitted
and both had begun to update before either was over. -/
theorem concurrent_upserts (task : Side → Task engine)
    (same : (task .left).query.SameFilter (task .right).query) {start : Fields (Sql.Row δ)}
    (sorted : Fields.Sorted start) {schedule : List Side}
    (finished : ((System.start task start).run engine schedule).Over) :
    let final := ((System.start task start).run engine schedule).table
    (∃ first : Side,
      let after := (task first).alone start
      final = (task first.other).alone after ∨
        Overlap task start schedule ∧
          (Duplicates (task first) (task first.other) start after final ∨
            ∃ kept, Overtaken (task first.other) start after kept final)) ∧
      ((∀ side, (task side).query.fits engine.values (task side).planned = true) →
        (∃ entry ∈ start, (task .left).query.fits engine.values entry.2 = true) ∨
          ¬Overlap task start schedule →
        ∃ new, ∀ id, final.contains id = true → start.contains id = true ∨ id = new) := by
  obtain ⟨first, seen, after, ⟨turned, sees⟩, left⟩ := order_of_over sorted finished
  have fits : ∀ side, (task side).search.fits = (task .left).query.fits engine.values := by
    rintro (_ | _)
    · exact (task .left).fits
    · exact (task .right).fits.trans (same.fits_eq engine.values).symm
  have alike : (task first).search.fits = (task first.other).search.fits := by
    rw [fits, fits]
  rw [left]
  intro final
  refine ⟨⟨first, ?_⟩, fun planned found => ?_⟩
  · simp only [Task.alone_eq_turn]
    obtain behind | ⟨early, overlap⟩ := sees
    · subst turned behind
      exact .inl rfl
    · subst turned early
      exact (turn_behind sorted alike).imp_right fun late => ⟨overlap, late⟩
  · have planned_ : (task first).search.fits (task first).planned = true := by
      rw [(task first).fits]
      exact planned first
    subst turned
    refine exists_new sorted alike planned_ (found.imp ?_ fun apart => ?_)
    · rintro ⟨entry, member, fit⟩
      refine ⟨entry.1, Search.fitsIn_eq_true.mpr ⟨entry.2, ?_, by rwa [fits]⟩⟩
      exact Fields.get?_of_mem (Fields.nodup_of_sorted sorted) member
    · exact sees.resolve_right fun late => apart late.2

/-! ### Players -/

/-- The cell of a datum. -/
def playerCell : Option (Int ⊕ Json) → Cell
  | some (.inl number) => .integer (.ofInt number)
  | some (.inr (.text text)) => .text text
  | _ => .null

/-- What is given back of a player. -/
def playerRow (row : Sql.Row (Int ⊕ Json)) : Row :=
  let now := Cell.instant (Instant.clampMilliseconds 0)
  ⟨[⟨"id", "TEXT"⟩, ⟨"created_at", "TIMESTAMPTZ"⟩, ⟨"updated_at", "TIMESTAMPTZ"⟩,
      ⟨"level", "INT8"⟩, ⟨"score", "INT8"⟩],
    [playerCell (row "id"), now, now, playerCell (row "level"), playerCell (row "score")]⟩

/-- The score of a player. -/
def playerScore (row : Sql.Row (Int ⊕ Json)) : Int := ((row "score").bind Sum.getLeft?).getD 0

/-- The players of the third level, those with the lowest scores first. -/
def playerQuery : FindQuery :=
  { FindQuery.empty with
    className := some "players", filters := [.compare "level" .equal (.number (.signed 3))],
    sort := [("score", .ascending)] }

def playerSearch : Search (Sql.Row (Int ⊕ Json)) :=
  .ascending (playerQuery.fits Predicate.sampleServer) playerScore

/-- A player with five points more. -/
def raised (row : Sql.Row (Int ⊕ Json)) : Sql.Row (Int ⊕ Json) := fun column =>
  if column = "score" then some (.inl (playerScore row + 5))
  else if column = "updated_at" then
    Predicate.sampleServer.argument (.ofColumn (.ofInstant (Instant.clampMilliseconds 0)))
  else row column

/-- A server that takes a statement whose first argument is a text for an insertion, and every other
one for a raise of a player. -/
def playerEngine : Engine (Int ⊕ Json) where
  values := Predicate.sampleServer
  effect statement :=
    match statement.arguments with
    | .typed (.text id) :: _ =>
      let row := statement.row Predicate.sampleServer
      .create id row (.ok (playerRow row))
    | _ => .change playerSearch fun row => .ok (raised row, playerRow (raised row))
  tables := []

/-- The id of the player that a client would create. -/
def playerId : Side → String
  | .left => "a"
  | .right => "b"

/-- The plan of a raise by five points. -/
def raisePlan (side : Side) : UpsertPlan :=
  let plan := UpsertPlan.of playerQuery [("score", .increment (.signed 5))] [] (playerId side)
    (Instant.clampMilliseconds 0)
  plan.toOption.getD ⟨[], [], ⟨"", Instant.clampMilliseconds 0, []⟩⟩

def raiseStatements (side : Side) : Upsert :=
  (Upsert.of playerQuery (raisePlan side) .after).toOption.getD ⟨"", ⟨[]⟩, ⟨[]⟩, .after⟩

/-- A raise of the first player, by a client. -/
def raise (side : Side) : Task playerEngine where
  query := playerQuery
  plan := raisePlan side
  returning := .after
  statements := raiseStatements side
  compiled := by cases side <;> rfl
  search := playerSearch
  change row := .ok (raised row, playerRow (raised row))
  given := .ok (playerRow ((raiseStatements side).insert.row Predicate.sampleServer))
  fits := rfl
  updates := by cases side <;> rfl
  inserts := by cases side <;> rfl

/-- A player of the third level. -/
def player (id : String) (score : Int) : String × Sql.Row (Int ⊕ Json) :=
  (id, fun column =>
    if column = "id" then some (.inr (.text id))
    else if column = "level" then some (.inl 3)
    else if column = "score" then some (.inl score)
    else none)

/-- What two raises make of some players. -/
def raiseTwice (players : Fields (Sql.Row (Int ⊕ Json))) (schedule : List Side) :
    System (Int ⊕ Json) :=
  (System.start raise players).run playerEngine schedule

/-- The scores of players. -/
def scores (table : Fields (Sql.Row (Int ⊕ Json))) : List (String × Int) :=
  table.map fun entry => (entry.1, playerScore entry.2)

/-- Of two clients that raise one player, the one that waits raises it when the other is done. -/
theorem concurrent_upserts_waiting :
    let final := raiseTwice [player "c" 1] [.left, .right, .left, .right, .left, .right, .right]
    final.Over ∧ scores final.table = [("c", 11)] ∧
      ∃ first : Side,
        final.table = (raise first.other).alone ((raise first).alone [player "c" 1]) := by
  intro final
  have finished : final.Over := Side.forall_of .left rfl rfl
  obtain ⟨⟨first, serial⟩, -⟩ := concurrent_upserts raise ⟨rfl, rfl⟩ (by decide) finished
  refine ⟨finished, rfl, first, serial.resolve_right ?_⟩
  rintro ⟨-, duplicates | ⟨kept, overtaken⟩⟩
  · exact absurd duplicates.nothing (by cases first <;> decide)
  · refine overtaken.passed (Eq.trans ?_ overtaken.found)
    rw [Task.alone_eq_turn]
    cases first <;> decide

/-- **Two upserts are not serializable** in general. Two clients that take turns both create a
player where there is none; and the one that has waited for the player with the lowest score raises
it again, though it has the highest one then. -/
theorem not_serial_upserts :
    (let final := raiseTwice [] [.left, .right, .left, .right, .left, .right, .left, .right]
    final.Over ∧ scores final.table = [("a", 5), ("b", 5)] ∧
      (∀ entry ∈ final.table, playerQuery.fits Predicate.sampleServer entry.2 = true) ∧
      ∀ first : Side, final.table ≠ (raise first.other).alone ((raise first).alone [])) ∧
    (let players := [player "c" 1, player "d" 2]
    let final := raiseTwice players [.left, .left, .right, .right, .left, .right, .right]
    final.Over ∧ scores final.table = [("c", 11), ("d", 2)] ∧
      ∀ first : Side, final.table ≠ (raise first.other).alone ((raise first).alone players)) := by
  refine ⟨⟨Side.forall_of .left rfl rfl, rfl, by decide, fun first same => ?_⟩,
    Side.forall_of .left rfl rfl, rfl, fun first same => ?_⟩
  · have left := congrArg scores same
    rw [Task.alone_eq_turn, Task.alone_eq_turn] at left
    revert left
    cases first <;> decide
  · have left := congrArg scores same
    rw [Task.alone_eq_turn, Task.alone_eq_turn] at left
    revert left
    cases first <;> decide

end TwinStore.Postgres
