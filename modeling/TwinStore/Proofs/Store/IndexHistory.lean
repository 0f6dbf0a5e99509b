/-
**Histories of indexes.** Classes have indexes added and dropped, one after the other. What a class
has then is its own doing if every class has names of its own. Where all share the names, it may be
that of another class.

* `IndexHistory.leaves`: what is left of an index of a name; `standing` where all classes share the
  names, `own` where they do not.
* `Undisturbed`: no operation meets the index of another class. `confined_iff_undisturbed`: this is
  when it makes no difference that the names are shared.
* `Action.Leads`: what an action that succeeds makes of a store, and `leads_perform` the same of a
  history. `leads_ensureTable`: ensuring a table ends with a history of its indexes.
-/

import TwinStore.Proofs.Store.Action
import TwinStore.Store.Connection

namespace TwinStore

variable {σ κ α β ι : Type}

/-! ### Histories -/

/-- An operation on the indexes of a class. -/
inductive IndexOperation where
  | add (index : TableIndex)
  | drop (name : String)

namespace IndexOperation

/-- The name of the index. -/
def name : IndexOperation → String
  | add index => index.name
  | drop name => name

/-- What an operation makes of the index of its name: one that is there stays as it is. -/
def on (keep : TableIndex → ι) : IndexOperation → Option ι → Option ι
  | .add index, known => known.or (some (keep index))
  | .drop _, _ => none

/-- The operation at a backend. -/
def perform (backend : Backend σ κ) (channel : κ) (className : String) :
    IndexOperation → Action σ Unit
  | .add index => backend.addIndex channel className index
  | .drop name => backend.dropIndex channel className name

end IndexOperation

/-- Operations on the indexes of classes, in the order in which they are performed. -/
abbrev IndexHistory := List (String × IndexOperation)

/-- The indexes of a table, added one after the other. -/
def Table.indexHistory (table : Table) : IndexHistory :=
  table.indexes.map fun index => (table.name, .add index)

namespace IndexHistory

def perform (backend : Backend σ κ) (channel : κ) (history : IndexHistory) : Action σ Unit :=
  history.forM fun step => step.2.perform backend channel step.1

/-- What the operations that concern an index make of it. -/
def leaves (concerns : String → IndexOperation → Bool) (keep : String → TableIndex → ι) :
    IndexHistory → Option ι → Option ι
  | [], known => known
  | (className, operation) :: rest, known => leaves concerns keep rest
    (if concerns className operation then operation.on (keep className) known else known)

/-- What is left of the index of a name, whatever class the operations are for. -/
def standing (keep : String → TableIndex → ι) (name : String) :
    IndexHistory → Option ι → Option ι :=
  leaves (fun _ operation => operation.name = name) keep

/-- What the operations for a class leave of its index of a name. -/
def own (keep : String → TableIndex → ι) (className name : String) :
    IndexHistory → Option ι → Option ι :=
  leaves (fun other operation => other = className ∧ operation.name = name) keep

/-- The indexes of a table: one that was there stays, and else the first of its name is added. -/
theorem leaves_indexHistory {concerns : String → IndexOperation → Bool} {table : Table}
    {name : String} (keep : String → TableIndex → ι)
    (adds : ∀ index, concerns table.name (.add index) = decide (index.name = name))
    (known : Option ι) :
    leaves concerns keep table.indexHistory known =
      known.or ((table.indexes.find? fun index => index.name = name).map (keep table.name)) := by
  unfold Table.indexHistory
  induction table.indexes generalizing known with
  | nil => exact (Option.or_none).symm
  | cons index rest step =>
    rw [List.map_cons, leaves, adds, step, List.find?_cons]
    cases decide (index.name = name) with
    | false => rfl
    | true => cases known <;> rfl

/-! ### Names that are shared -/

section Shared

variable (classOf : ι → String) (keep : String → TableIndex → ι) (name : String)

/-- An index as far as it is one of a class. -/
def belonging (className : String) (known : Option ι) : Option ι :=
  known.filter fun index => classOf index = className

/-- No operation on a name meets the index of another class than its own. -/
def Undisturbed : IndexHistory → Option ι → Prop
  | [], _ => True
  | (className, operation) :: rest, known =>
    (operation.name = name → ∀ index ∈ known, classOf index = className) ∧
      Undisturbed rest
        (if operation.name = name then operation.on (keep className) known else known)

variable {classOf keep name}

theorem standing_cons (className : String) (operation : IndexOperation) (rest : IndexHistory)
    (known : Option ι) : standing keep name ((className, operation) :: rest) known =
      standing keep name rest
        (if operation.name = name then operation.on (keep className) known else known) := by
  rw [standing, leaves]
  simp only [decide_eq_true_eq]

theorem own_cons (className other : String) (operation : IndexOperation) (rest : IndexHistory)
    (known : Option ι) : own keep className name ((other, operation) :: rest) known =
      own keep className name rest
        (if other = className ∧ operation.name = name then operation.on (keep other) known
        else known) := by
  rw [own, leaves]
  simp only [decide_eq_true_eq]

theorem belonging_of_eq {index : ι} {className : String} (same : classOf index = className) :
    belonging classOf className (some index) = some index := by
  rw [belonging, Option.filter_some, if_pos (decide_eq_true same)]

theorem belonging_of_ne {index : ι} {className : String} (different : classOf index ≠ className) :
    belonging classOf className (some index) = none := by
  rw [belonging, Option.filter_some, if_neg (by simpa using different)]

/-- An operation on a name leaves every class what is its own exactly if it does not meet the index
of another. -/
theorem belonging_on_iff (kept : ∀ className index, classOf (keep className index) = className)
    (className : String) (operation : IndexOperation) (known : Option ι) :
    (∀ other, belonging classOf other (operation.on (keep className) known) =
      if className = other then operation.on (keep className) (belonging classOf other known)
      else belonging classOf other known) ↔
    ∀ index ∈ known, classOf index = className := by
  constructor
  · rintro confined index rfl
    refine Decidable.byContradiction fun different => ?_
    cases operation with
    | add added =>
      have lost := confined className
      rw [if_pos rfl, belonging_of_ne different] at lost
      exact absurd ((belonging_of_ne different).symm.trans lost) nofun
    | drop dropped =>
      have lost := confined (classOf index)
      rw [if_neg (Ne.symm different), belonging_of_eq rfl] at lost
      cases lost
  · intro alone other
    cases known with
    | none =>
      cases operation with
      | add added =>
        show belonging classOf other (some (keep className added)) = _
        split
        · next same => exact belonging_of_eq ((kept className added).trans same)
        · next different =>
          exact belonging_of_ne fun same => different ((kept className added).symm.trans same)
      | drop dropped => split <;> rfl
    | some index =>
      have whose := alone index rfl
      split
      · next same =>
        rw [belonging_of_eq (whose.trans same)]
        cases operation with
        | add added => exact belonging_of_eq (whose.trans same)
        | drop dropped => rfl
      · next different =>
        have others := belonging_of_ne fun same => different (whose.symm.trans same)
        cases operation with
        | add added => rfl
        | drop dropped => exact others.symm

/-- One operation of a history leaves every class what is its own exactly if it does not meet the
index of another under the name. -/
theorem confined_step_iff (kept : ∀ className index, classOf (keep className index) = className)
    (className : String) (operation : IndexOperation) (known : Option ι) :
    (∀ other, belonging classOf other
        (if operation.name = name then operation.on (keep className) known else known) =
      if className = other ∧ operation.name = name
      then operation.on (keep className) (belonging classOf other known)
      else belonging classOf other known) ↔
    (operation.name = name → ∀ index ∈ known, classOf index = className) := by
  by_cases concerns : operation.name = name
  · simpa only [concerns, if_true, and_true, true_implies]
      using belonging_on_iff kept className operation known
  · simp [concerns]

/-- **After every part of a history, each class has what its own operations leave it**, exactly if
no operation meets the index of another class. -/
theorem confined_iff_undisturbed
    (kept : ∀ className index, classOf (keep className index) = className)
    (history : IndexHistory) (known : Option ι) :
    (∀ part, part <+: history → ∀ className,
      belonging classOf className (standing keep name part known) =
        own keep className name part (belonging classOf className known)) ↔
    Undisturbed classOf keep name history known := by
  induction history generalizing known with
  | nil =>
    refine iff_of_true (fun part front className => ?_) trivial
    rw [List.prefix_nil.mp front]
    rfl
  | cons step rest ih =>
    obtain ⟨className, operation⟩ := step
    rw [Undisturbed, ← confined_step_iff kept, ← ih]
    constructor
    · intro confined
      have first (other : String) := confined [(className, operation)] ⟨rest, rfl⟩ other
      simp only [standing_cons, own_cons] at first
      refine ⟨first, fun part front other => ?_⟩
      have later := confined ((className, operation) :: part)
        (List.cons_prefix_cons.mpr ⟨rfl, front⟩) other
      rw [standing_cons, own_cons] at later
      exact later.trans (congrArg _ (first other).symm)
    · rintro ⟨first, later⟩ part front other
      obtain rfl | ⟨others, rfl, shorter⟩ := List.prefix_cons_iff.mp front
      · rfl
      · rw [standing_cons, own_cons]
        exact (later others shorter other).trans (congrArg _ (first other))

end Shared

end IndexHistory

/-! ### What succeeds -/

/-- Where an action succeeds, the store behind it is related to the one in front of it. -/
def Action.Leads (related : σ → σ → Prop) (action : Action σ α) : Prop :=
  ∀ store value after, action.outcome store = (.ok value, after) → related store after

namespace Action.Leads

variable {related later : σ → σ → Prop}

theorem mono {action : Action σ α} (leads : action.Leads related)
    (weaker : ∀ store after, related store after → later store after) : action.Leads later :=
  fun store value after succeeded => weaker store after (leads store value after succeeded)

theorem ofResult (result : Except StoreError α) :
    (Action.ofResult result : Action σ α).Leads fun store after => after = store := by
  intro store value after succeeded
  exact (congrArg Prod.snd succeeded).symm

theorem bind {first : Action σ α} {next : α → Action σ β} (one : first.Leads related)
    (two : ∀ value, (next value).Leads later) : (first >>= next).Leads fun store after =>
      ∃ middle, related store middle ∧ later middle after := by
  intro store value after succeeded
  rw [outcome_bind] at succeeded
  rcases took : first.outcome store with ⟨error | taken, middle⟩
  · rw [took] at succeeded
    cases succeeded
  · rw [took] at succeeded
    exact ⟨middle, one store taken middle took, two taken middle value after succeeded⟩

theorem outcome_act (action : Action σ α) (world : World σ) : (World.act action).outcome world =
    ((action.outcome world.store).1, ⟨world.issued, (action.outcome world.store).2⟩) := rfl

/-- What is done to a store is done to its world. -/
theorem of_act {action : Action σ α} {acted : Action (World σ) α} (leads : action.Leads related)
    (same : ∀ world, acted.outcome world = (World.act action).outcome world) :
    acted.Leads fun world after => related world.store after.store := by
  intro world value after succeeded
  rw [same, outcome_act] at succeeded
  have came : (action.outcome world.store).1 = .ok value := congrArg Prod.fst succeeded
  have left : (action.outcome world.store).2 = after.store :=
    congrArg (fun outcome => outcome.2.store) succeeded
  exact leads world.store value after.store (Prod.ext came left)

theorem outcome_act_forM (items : List β) (action : β → Action σ PUnit) (world : World σ) :
    (items.forM fun item => World.act (action item)).outcome world =
      (World.act (items.forM action)).outcome world := by
  induction items generalizing world with
  | nil => rfl
  | cons item rest step =>
    show (World.act (action item) >>= fun _ => rest.forM _).outcome world =
      (World.act (action item >>= fun _ => rest.forM action)).outcome world
    rw [outcome_bind, outcome_act, outcome_act, outcome_bind]
    rcases (action item).outcome world.store with ⟨error | _, after⟩
    · rfl
    · exact step ⟨world.issued, after⟩

end Action.Leads

section Backends

variable {backend : Backend σ κ} {channel : κ}

/-- **A history that succeeds** leaves of an index what its operations make of it, one by one. -/
theorem leads_perform {index? : σ → Option ι} {holds : σ → Prop}
    {concerns : String → IndexOperation → Bool} {keep : String → TableIndex → ι}
    (each : ∀ className (operation : IndexOperation),
      (operation.perform backend channel className).Leads fun store after => holds store →
        holds after ∧ index? after =
          if concerns className operation then operation.on (keep className) (index? store)
          else index? store)
    (history : IndexHistory) :
    (history.perform backend channel).Leads fun store after => holds store →
      holds after ∧ index? after = history.leaves concerns keep (index? store) := by
  induction history with
  | nil =>
    intro store value after succeeded held
    cases succeeded
    exact ⟨held, rfl⟩
  | cons step rest ih =>
    refine ((each step.1 step.2).bind fun _ => ih).mono fun store after came held => ?_
    obtain ⟨middle, first, last⟩ := came
    obtain ⟨still, here⟩ := first held
    obtain ⟨ended, left⟩ := last still
    exact ⟨ended, left.trans (congrArg (IndexHistory.leaves concerns keep rest) here)⟩

/-- Each part of a history that succeeds does so as well. -/
theorem exists_of_prefix {part history : IndexHistory} {store after : σ} (front : part <+: history)
    (done : (history.perform backend channel).outcome store = (.ok (), after)) :
    ∃ middle, (part.perform backend channel).outcome store = (.ok (), middle) := by
  obtain ⟨rest, rfl⟩ := front
  rw [IndexHistory.perform, List.forM_eq_forM, List.forM_append, Action.outcome_bind] at done
  rcases came : (part.perform backend channel).outcome store with ⟨error | _, middle⟩
  · rw [← List.forM_eq_forM, ← IndexHistory.perform, came] at done
    cases done
  · exact ⟨middle, rfl⟩

theorem perform_indexHistory (backend : Backend σ κ) (channel : κ) (table : Table) :
    table.indexHistory.perform backend channel =
      table.indexes.forM (backend.addIndex channel table.name) := by
  rw [Table.indexHistory, IndexHistory.perform, List.forM_eq_forM, List.forM_map]
  rfl

/-- **Ensuring a table ends with a history of its indexes**, behind what prepares the table. -/
theorem leads_ensureTable {table : Table} {capabilities : Capabilities}
    {prepares indexes : σ → σ → Prop}
    (tables : (backend.tables channel).Leads prepares)
    (adds : (backend.addColumns channel table.name table.userColumns).Leads prepares)
    (creates : (backend.createTable channel table).Leads fun store after =>
      ∃ middle, prepares store middle ∧ indexes middle after)
    (indexed : (table.indexHistory.perform backend channel).Leads indexes)
    (trans : ∀ {one two three}, prepares one two → prepares two three → prepares one three) :
    (Connection.ensureTable ⟨backend, channel, capabilities⟩ table).Leads fun world after =>
      ∃ middle, prepares world.store middle ∧ indexes middle after.store := by
  rw [perform_indexHistory] at indexed
  have brought (names : List String) : Action.Leads (fun world after : World σ =>
        ∃ middle, prepares world.store middle ∧ indexes middle after.store)
      (if names.contains table.name then
        (World.act (backend.addColumns channel table.name table.userColumns) >>= fun _ =>
          table.indexes.forM fun index => World.act (backend.addIndex channel table.name index))
      else World.act (backend.createTable channel table)) := by
    split
    · refine ((adds.of_act fun _ => rfl).bind fun _ => indexed.of_act
        (Action.Leads.outcome_act_forM _ _)).mono ?_
      rintro world after ⟨middle, both⟩
      exact ⟨middle.store, both⟩
    · exact creates.of_act fun _ => rfl
  refine ((tables.of_act fun _ => rfl).bind brought).mono ?_
  rintro world after ⟨listed, first, middle, second, last⟩
  exact ⟨middle, trans first second, last⟩

end Backends

end TwinStore
