/-
**An upsert is one transaction.** Which statements an upsert sends, in which order, and what becomes
of the transaction, whatever a server replies to each of them.

* `Upsert.Worked`: the replies to the statements decide whether there is an insertion, and what is
  made of both. `Upsert.worked_of_course`: the statements of an upsert work like that.
* `Upsert.Ended`: a transaction of its own commits what has worked, and gives up what has failed.
* `upsert_is_one_transaction`: outside a transaction an upsert opens one, works and ends it; inside
  an open one it works, and keeps the transaction for that time.
-/

import TwinStore.Proofs.Postgres.Conversation
import TwinStore.Proofs.Postgres.Operation

namespace TwinStore.Postgres

variable {σ : Type}

namespace Upsert

/-! ### The statements -/

/-- The exchanges with the replies to the update, and to the insertion if there is one. -/
def exchanges (statements : Upsert) (updated : Reply) (inserted : Option Reply) :
    List (Request × Reply) :=
  (.run statements.update, updated) ::
    inserted.toList.map fun reply => (.run statements.insert, reply)

/-- What becomes of the statements of an upsert. -/
structure Worked (statements : Upsert) (updated : Reply) (inserted : Option Reply)
    (made : Except StoreError (Option Record)) : Prop where
  /-- The insertion is sent exactly if the update has found nothing. -/
  inserting : inserted.isSome = true ↔ updated.FindsNothing
  refused : ∀ fault, updated.fault = some fault → made = .error (.postgres fault)
  /-- A row that was updated is read, even where it cannot be. -/
  found : ∀ row rest, updated.Succeeds → updated.rows = row :: rest →
    made = (row.toRecord statements.className).map some
  unwritten : ∀ reply ∈ inserted, ∀ fault, reply.fault = some fault →
    made = .error (.postgres fault)
  missing : ∀ reply ∈ inserted, reply.FindsNothing → made = .error (.postgres .missingRow)
  /-- An inserted row is read if it is asked for. -/
  written : ∀ reply ∈ inserted, ∀ row rest, reply.Succeeds → reply.rows = row :: rest →
    made = match statements.returning with
      | .before => .ok none
      | .after => (row.toRecord statements.className).map some

/-- The replies to an insertion decide what is made of it. -/
theorem worked_of_insertion {statements : Upsert} {updated : Reply}
    (nothing : updated.FindsNothing) (inserted : Reply) :
    statements.Worked updated (some inserted) (statements.insertion inserted) where
  inserting := iff_of_true rfl nothing
  refused fault same := by
    rw [nothing.1] at same
    cases same
  found row rest succeeds same := by
    rw [nothing.2] at same
    cases same
  unwritten := by
    rintro ⟨rows, affected, _⟩ ⟨⟩ fault rfl
    rfl
  missing := by
    rintro ⟨_, affected, _⟩ ⟨⟩ ⟨rfl, rfl⟩
    rfl
  written := by
    rintro ⟨_, affected, _⟩ ⟨⟩ row rest rfl rfl
    unfold insertion
    cases statements.returning <;> rfl

/-- **The statements of an upsert work by the replies to them.** -/
theorem worked_of_course {statements : Upsert} {sent : List (Request × Reply)}
    {made : Except StoreError (Option Record)} (course : statements.conversation.Course sent made) :
    ∃ updated inserted, sent = statements.exchanges updated inserted ∧
      statements.Worked updated inserted made := by
  obtain _ | ⟨updated, rest⟩ := course
  obtain ⟨rows, affected, fault⟩ := updated
  cases fault with
  | some fault =>
    obtain _ | _ := rest
    refine ⟨_, none, rfl, ⟨by simp [Reply.FindsNothing], ?_, nofun, nofun, nofun, nofun⟩⟩
    rintro _ ⟨⟩
    rfl
  | none =>
    cases rows with
    | cons row others =>
      obtain _ | _ := rest
      refine ⟨_, none, rfl, ⟨by simp [Reply.FindsNothing], nofun, ?_, nofun, nofun, nofun⟩⟩
      rintro _ _ _ ⟨⟩
      rfl
    | nil =>
      obtain _ | ⟨inserted, last⟩ := rest
      obtain _ | _ := last
      exact ⟨_, some inserted, rfl, worked_of_insertion ⟨rfl, rfl⟩ inserted⟩

/-! ### The transaction -/

/-- What becomes of a transaction that was opened for an upsert. -/
structure Ended (made : Except StoreError (Option Record)) (ending : Request) (ended : Reply)
    (result : Except StoreError (Option Record)) : Prop where
  commits : ending = .commit ↔ ∃ record, made = .ok record
  givesUp : ending = .giveUp ↔ ∃ error, made = .error error
  /-- The upsert succeeds exactly if the commit does. -/
  succeeds : (∃ record, result = .ok record) ↔ ending = .commit ∧ ended.Succeeds
  kept : ∀ record, result = .ok record → made = .ok record
  failed : ∀ error, made = .error error → result = .error error
  uncommitted : ∀ fault, ending = .commit → ended.fault = some fault →
    result = .error (.postgres fault)

theorem ended_of_course {made result : Except StoreError (Option Record)}
    {sent : List (Request × Reply)} (course : (ending made).Course sent result) :
    ∃ request ended, sent = [(request, ended)] ∧ Ended made request ended result := by
  cases made with
  | error error =>
    obtain _ | ⟨ended, last⟩ := course
    obtain _ | _ := last
    refine ⟨.giveUp, ended, rfl, ?_⟩
    exact
      { commits := iff_of_false nofun fun ⟨_, same⟩ => nomatch same
        givesUp := iff_of_true rfl ⟨error, rfl⟩
        succeeds := iff_of_false (fun ⟨_, same⟩ => nomatch same) fun ⟨same, _⟩ => nomatch same
        kept := fun _ same => nomatch same
        failed := fun _ same => same
        uncommitted := nofun }
  | ok record =>
    obtain _ | ⟨ended, last⟩ := course
    obtain _ | _ := last
    refine ⟨.commit, ended, rfl, ?_⟩
    have commits : Request.commit = .commit ↔
        ∃ made, (.ok record : Except StoreError (Option Record)) = .ok made :=
      iff_of_true rfl ⟨record, rfl⟩
    have givesUp : Request.commit = .giveUp ↔
        ∃ error, (.ok record : Except StoreError (Option Record)) = .error error :=
      iff_of_false nofun fun ⟨_, same⟩ => nomatch same
    obtain ⟨rows, affected, fault⟩ := ended
    cases fault with
    | none =>
      exact ⟨commits, givesUp, iff_of_true ⟨record, rfl⟩ ⟨rfl, rfl⟩, fun _ same => same, nofun,
        nofun⟩
    | some fault =>
      refine ⟨commits, givesUp, iff_of_false ?_ ?_, ?_, nofun, ?_⟩
      · exact fun ⟨_, same⟩ => nomatch same
      · exact fun ⟨_, same⟩ => nomatch same
      · exact fun _ same => nomatch same
      · rintro _ _ ⟨⟩
        rfl

/-- **A transaction of an upsert's own** works, and then ends. -/
theorem worked_of_own {statements : Upsert} {sent : List (Request × Reply)}
    {result : Except StoreError (Option Record)}
    (course : (statements.conversation.bind ending).Course sent result) :
    ∃ updated inserted made request ended,
      sent = statements.exchanges updated inserted ++ [(request, ended)] ∧
      statements.Worked updated inserted made ∧ Ended made request ended result := by
  obtain ⟨early, made, late, rfl, working, finishing⟩ := Conversation.course_bind course
  obtain ⟨updated, inserted, rfl, worked⟩ := worked_of_course working
  obtain ⟨request, ended, rfl, finished⟩ := ended_of_course finishing
  exact ⟨updated, inserted, made, request, ended, rfl, worked, finished⟩

end Upsert

/-- **An upsert is one transaction, with a fixed order of its steps**, whatever a server replies. An
upsert that does not compile sends nothing. One that compiles has the update and the insertion of
its plan, for the class of its query. Outside a transaction it opens one, and does nothing more if
that fails. The update comes next, and then the insertion exactly if the update has found nothing.
At last the transaction commits exactly if everything before has worked, the reading of the row that
is given back included, and is given up otherwise. The upsert succeeds exactly if the commit does,
and gives what was made of the rows then. Inside an open transaction the same statements are sent
while the transaction is kept, nothing opens or ends it, and the result is what was made of the
rows. -/
theorem upsert_is_one_transaction (server : Server σ) (query : FindQuery) (plan : UpsertPlan)
    (returning : Returning) :
    (∀ error, Upsert.of query plan returning = .error error → ∀ channel session,
      (upsert server.heard channel query plan returning).outcome session =
        (.error error, session)) ∧
    ∀ statements, Upsert.of query plan returning = .ok statements →
      statements.Compiled query plan returning ∧
      (∀ session : Session (Heard σ),
        let outcome := (upsert server.heard none query plan returning).outcome session
        ∃ begun behind,
          Exchanged session.opened ((.openTransaction, begun) :: behind) session outcome.2 ∧
          (∀ fault, begun.fault = some fault →
            behind = [] ∧ outcome.1 = .error (.postgres fault)) ∧
          (begun.Succeeds → ∃ updated inserted made ending ended,
            behind = statements.exchanges updated inserted ++ [(ending, ended)] ∧
            statements.Worked updated inserted made ∧
            Upsert.Ended made ending ended outcome.1 ∧
            outcome.2.phase session.opened = .finished)) ∧
      ∀ number (session : Session (Heard σ)), session.phase number = .idle →
        let outcome := (upsert server.heard (some number) query plan returning).outcome session
        ∃ updated inserted kept,
          Held server number (session.setPhase number .busy)
            (statements.exchanges updated inserted) kept ∧
          outcome.2 = kept.setPhase number .idle ∧
          statements.Worked updated inserted outcome.1 := by
  refine ⟨fun error failed channel session => ?_, fun statements compiled =>
    ⟨Upsert.of_eq_ok_iff.mp compiled, fun session => ?_, fun number session idle => ?_⟩⟩
  · unfold upsert
    rw [failed]
    rfl
  · rcases asked : Id.run ((server.heard.answer (some session.opened) .openTransaction).run
      session.server) with ⟨begun, state⟩
    have opening : Exchanged session.opened [(.openTransaction, begun)] session
        { session with server := state } := by
      have logged : Exchanged session.opened [(.openTransaction, (begun, state).1)] session
          { session with server := (begun, state).2 } := by
        rw [← asked]
        rfl
      exact logged
    rw [Upsert.outcome_upsert server.heard compiled, asked]
    obtain ⟨rows, affected, fault⟩ := begun
    cases fault with
    | some fault =>
      refine ⟨_, [], opening, ?_, nofun⟩
      rintro _ ⟨⟩
      exact ⟨rfl, rfl⟩
    | none =>
      obtain ⟨sent, course, grown⟩ := Conversation.course_run server session.opened
        (statements.conversation.bind Upsert.ending) state
      obtain ⟨updated, inserted, made, request, ended, rfl, worked, finished⟩ :=
        Upsert.worked_of_own course
      refine ⟨⟨rows, affected, none⟩, _, ?_, nofun, fun _ => ⟨updated, inserted, made, request,
        ended, rfl, worked, finished, Upsert.phase_opened session .finished _⟩⟩
      exact opening.trans grown
  · have kept : (session.setPhase number .busy).phase number = .busy := if_pos rfl
    obtain ⟨sent, course, held⟩ :=
      held_run server number statements.conversation (session.setPhase number .busy) kept
    obtain ⟨updated, inserted, rfl, worked⟩ := Upsert.worked_of_course course
    unfold upsert
    rw [compiled, Action.ofResult_bind_ok]
    simp only [outcome_exclusively_idle idle, Upsert.outcome_run]
    exact ⟨updated, inserted, _, held, rfl, worked⟩

/-- A server that reads its replies from a script. -/
def scripted : Server (List (List Row)) where
  answer _ _ := do
    let script ← get
    set script.tail
    return ⟨script.headD [], 0, none⟩

/-- An upsert of a player's score. -/
def scoringPlan : UpsertPlan :=
  ⟨[("score", .increment (.signed 5))], [],
    ⟨"a", Instant.clampMilliseconds 0, [("score", .number (.signed 5))]⟩⟩

/-- The row of a player. -/
def scoringRow : Row := ⟨[⟨"id", "TEXT"⟩], [.text "a"]⟩

/-- A query for any player. -/
def playersQuery : FindQuery := { FindQuery.empty with className := some "players" }

/-- The row that was inserted is given back if it is asked for, and nothing if the row before it is;
a row that was updated is given back either way. -/
theorem upsert_is_one_transaction_scoring :
    let alone : Session (Heard (List (List Row))) := .start ⟨[[], [], [scoringRow], []], []⟩
    let inside : Session (Heard (List (List Row))) := ⟨⟨[[scoringRow]], []⟩, 1, fun _ => .idle⟩
    let inserted := (upsert scripted.heard none playersQuery scoringPlan .after).outcome alone
    let created := (upsert scripted.heard none playersQuery scoringPlan .before).outcome alone
    let updated := (upsert scripted.heard (some 0) playersQuery scoringPlan .before).outcome inside
    let player : Record := ⟨"players", some "a", none, none, []⟩
    ∃ statements others, Upsert.of playersQuery scoringPlan .after = .ok statements ∧
      Upsert.of playersQuery scoringPlan .before = .ok others ∧
      statements.Compiled playersQuery scoringPlan .after ∧
      others.Compiled playersQuery scoringPlan .before ∧
      inserted.1 = .ok (some player) ∧
      (∃ begun nothing written ended, Exchanged 0
        [(.openTransaction, begun), (.run statements.update, nothing),
          (.run statements.insert, written), (.commit, ended)] alone inserted.2) ∧
      created.1 = .ok none ∧
      (∃ begun nothing written ended, Exchanged 0
        [(.openTransaction, begun), (.run others.update, nothing),
          (.run others.insert, written), (.commit, ended)] alone created.2) ∧
      inside.phase 0 = .idle ∧ updated.1 = .ok (some player) ∧
      ∃ found, Exchanged 0 [(.run others.update, found)] inside updated.2 := by
  intro alone inside inserted created updated player
  have sends := upsert_is_one_transaction scripted playersQuery scoringPlan
  have steps (returning : Returning) {statements : Upsert} {record : Option Record}
      (compiled : Upsert.of playersQuery scoringPlan returning = .ok statements) :
      let outcome := (upsert scripted.heard none playersQuery scoringPlan returning).outcome alone
      outcome.1 = .ok record → outcome.2.server.entries.length = 4 →
        ∃ begun nothing written ended, Exchanged 0
          [(.openTransaction, begun), (.run statements.update, nothing),
            (.run statements.insert, written), (.commit, ended)] alone outcome.2 := by
    intro outcome made four
    obtain ⟨begun, behind, exchanged, refused, works⟩ := ((sends returning).2 _ compiled).2.1 alone
    cases fault : begun.fault with
    | some fault => cases made.symm.trans (refused _ fault).2
    | none =>
      obtain ⟨nothing, written, _, ending, ended, rfl, -, finished, -⟩ := works fault
      obtain ⟨rfl, -⟩ := finished.succeeds.mp ⟨_, made⟩
      cases written with
      | none => cases four.symm.trans (congrArg List.length exchanged)
      | some written => exact ⟨begun, nothing, written, ended, exchanged⟩
  obtain ⟨compiled, -⟩ := (sends .after).2 _ rfl
  obtain ⟨compiledToo, -, shared⟩ := (sends .before).2 _ rfl
  refine ⟨_, _, rfl, rfl, compiled, compiledToo, rfl, steps .after rfl rfl rfl, rfl,
    steps .before rfl rfl rfl, rfl, rfl, ?_⟩
  obtain ⟨found, written, kept, held, after, -⟩ := shared 0 inside rfl
  have one : updated.2.server.entries.length = 1 := rfl
  have exchanged := held.exchanged
  rw [after] at one
  cases written with
  | none =>
    refine ⟨found, ?_⟩
    rw [after]
    exact exchanged
  | some written => cases one.symm.trans (congrArg List.length exchanged)

end TwinStore.Postgres
