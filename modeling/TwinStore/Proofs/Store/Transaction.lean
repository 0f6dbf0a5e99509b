/-
**Transactions end once, and on the right side.** What becomes of a transaction's body, and what a
backend is asked for meanwhile.

* `Backend.finish` ends a transaction as its body did, and `settled` is what is reported of both.
* `Connection.outcome_of_refused` and `Connection.outcome_of_opened`: opening, the body and the end,
  whatever each of them comes to.
* `transaction_finishes_once`: for any backend and any program as the body, the log holds the
  opening, then the calls of the body, and behind them one call that ends the transaction.
-/

import TwinStore.Proofs.Store.Log

namespace TwinStore

variable {σ κ τ α : Type}

/-! ### The end of a transaction -/

/-- Ends a transaction: commits where the body succeeded, and aborts where it failed. -/
def Backend.finish (backend : Backend σ κ) (channel : κ) : Except StoreError α → Action σ Unit
  | .ok _ => backend.commit channel
  | .error _ => backend.abort channel

/-- The call that ends a transaction. -/
def endingCall : Except StoreError α → Call
  | .ok _ => .commit
  | .error _ => .abort

/-- What is reported of a transaction: the failure of its body, else that of its end. -/
def settled : Except StoreError α → Except StoreError Unit → Except StoreError α
  | .ok value, finished => finished.map fun _ => value
  | .error error, _ => .error error

theorem endingCall_eq_commit {result : Except StoreError α} :
    endingCall result = .commit ↔ ∃ value, result = .ok value := by
  cases result <;> simp [endingCall]

theorem endingCall_eq_abort {result : Except StoreError α} :
    endingCall result = .abort ↔ ∃ error, result = .error error := by
  cases result <;> simp [endingCall]

theorem settled_eq_ok {result : Except StoreError α} {finished : Except StoreError Unit}
    {value : α} : settled result finished = .ok value ↔ result = .ok value ∧ finished = .ok () := by
  cases result with
  | error error => simp [settled]
  | ok other => cases finished <;> simp [settled, Except.map]

/-- A transaction that ends is noted as such. -/
theorem Backend.calls_finish (backend : Backend σ κ) (channel : κ) (result : Except StoreError α)
    (world : World (Logged σ κ)) :
    ((World.act (backend.logged.finish channel result)).outcome world).2.store.calls =
      world.store.calls ++ [.mk channel (endingCall result) []] := by
  cases result <;> rfl

namespace Connection

variable (connection : Connection σ κ) (body : Connection σ κ → Work (World σ) τ α) (start : τ)
  (world : World σ)

/-- What comes of opening a transaction. -/
def opening : Except StoreError κ × World σ :=
  (World.act (connection.backend.openTransaction connection.channel)).outcome world

/-- If no transaction can be opened, nothing else happens. -/
theorem outcome_of_refused {error : StoreError}
    (refused : (connection.opening world).1 = .error error) :
    (connection.withTransaction body).outcome start world =
      ((.error error, start), (connection.opening world).2) := by
  unfold withTransaction
  rw [Work.outcome_bind, Work.outcome_ofAction]
  unfold opening at refused ⊢
  rw [refused]

/-- **What comes of a transaction.** The body runs, and then the transaction ends as the body
did. -/
theorem outcome_of_opened {channel : κ} (opened : (connection.opening world).1 = .ok channel) :
    (connection.withTransaction body).outcome start world =
      let ran := (body { connection with channel }).outcome start (connection.opening world).2
      let finished := (World.act (connection.backend.finish channel ran.1.1)).outcome ran.2
      ((settled ran.1.1 finished.1, ran.1.2), finished.2) := by
  unfold withTransaction
  rw [Work.outcome_bind, Work.outcome_ofAction]
  unfold opening at opened ⊢
  rw [opened]
  simp only [Work.outcome_bind, Work.outcome_attempt]
  obtain ⟨⟨result, gathered⟩, ran⟩ := (body { connection with channel }).outcome start _
  cases result with
  | ok value =>
    simp only [Work.outcome_bind, Work.outcome_ofAction, Backend.finish]
    obtain ⟨finished, after⟩ := (World.act (connection.backend.commit channel)).outcome ran
    cases finished <;> rfl
  | error error =>
    simp only [Work.outcome_bind, Work.outcome_attempt, Work.outcome_ofAction, Backend.finish]
    rfl

end Connection

/-! ### Transactions of programs -/

/-- **A transaction ends once, and on the right side.** The call that opens it comes first; if it
fails, that is all that happens. Otherwise the calls of the body follow, and behind them one call on
the transaction, which commits exactly if the body succeeded and aborts exactly if it failed. The
transaction succeeds if the body and the commit do; a commit that fails gives the failure, and so
does a body that fails, even if the abort fails too. No other call opens or ends a transaction, if
the body holds no further ones. -/
theorem transaction_finishes_once (backend : Backend σ κ) (capabilities : Capabilities)
    (channels : Nat → κ) (level : Nat) (body : Program α) (world : World (Logged σ κ)) :
    let connection := Connection.logged backend (channels level) capabilities
    let opened := connection.opening world
    let outcome := (connection.withTransaction fun inner =>
      body.run backend.logged capabilities (Program.enter inner.channel channels)).outcome () world
    opened.2.store.calls = world.store.calls ++ [.mk (channels level) .openTransaction []] ∧
    (∀ error, opened.1 = .error error → outcome = ((.error error, ()), opened.2)) ∧
    ∀ channel, opened.1 = .ok channel →
      let ran := (body.run backend.logged capabilities (Program.enter channel channels)).outcome ()
        opened.2
      let finished := (World.act (backend.logged.finish channel ran.1.1)).outcome ran.2
      ∃ calls ending, ran.2.store.calls = opened.2.store.calls ++ calls ∧
        finished.2.store.calls = ran.2.store.calls ++ [.mk channel ending []] ∧
        outcome.2 = finished.2 ∧
        (ending = .commit ↔ ∃ value, ran.1.1 = .ok value) ∧
        (ending = .abort ↔ ∃ error, ran.1.1 = .error error) ∧
        (∀ value, outcome.1.1 = .ok value ↔ ran.1.1 = .ok value ∧ finished.1 = .ok ()) ∧
        (∀ value error, ran.1.1 = .ok value → finished.1 = .error error →
          outcome.1.1 = .error error) ∧
        (∀ error, ran.1.1 = .error error → outcome.1.1 = .error error) ∧
        (body.IsPlain → ∀ entry ∈ calls, entry.call.IsWork) := by
  intro connection opened outcome
  refine ⟨rfl, fun error refused => connection.outcome_of_refused _ () world refused, ?_⟩
  intro channel found ran finished
  have whole : outcome = ((settled ran.1.1 finished.1, ran.1.2), finished.2) :=
    connection.outcome_of_opened _ () world found
  have adds : WorkAddsCalls body.IsPlain (body.run backend.logged capabilities
      (Program.enter channel channels) : Work (World (Logged σ κ)) Unit α) :=
    Program.adds_run id _
  obtain ⟨calls, grown, works⟩ := adds () opened.2
  refine ⟨calls, endingCall ran.1.1, grown, backend.calls_finish channel _ _,
    congrArg Prod.snd whole, endingCall_eq_commit, endingCall_eq_abort, fun value => ?_, ?_, ?_,
    fun only entry member => works entry member only⟩
  · rw [whole]
    exact settled_eq_ok
  · intro value error succeeded failed
    rw [whole, succeeded, failed]
    rfl
  · intro error failed
    rw [whole, failed]
    rfl

end TwinStore
