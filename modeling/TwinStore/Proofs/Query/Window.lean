/-
**One window for all stores.** Of the matches of a query so many are skipped, and so many of the
others kept. A statement, the options of a find and a recording backend each say it in their own
way.

* `Window.cut`: what a window means.
* `clauseCut?` reads the clause of a statement, and `FindOptions.cut` the options of a find, where
  zero is no limit.
* `windows_agree_iff`: which windows mean the same to all of them.
-/

import TwinStore.Mongo.Backend
import TwinStore.Proofs.Sql.Layout
import TwinStore.Store.Recording

namespace TwinStore

/-- Items to leave out in front, and how many to keep of the others, if not all. -/
structure Cut where
  offset : Nat
  limit : Option Nat

namespace Cut

variable {ρ : Type}

/-- The items that are kept. -/
def apply (cut : Cut) (items : List ρ) : List ρ :=
  match cut.limit with
  | none => items.drop cut.offset
  | some limit => (items.drop cut.offset).take limit

end Cut

/-- **What a window means.** -/
def Window.cut (window : Window) : Cut :=
  ⟨(window.skip.map UInt64.toNat).getD 0, window.limit.map UInt64.toNat⟩

/-! ### Clauses -/

section Clauses

open Sql Draft

/-- The cut of a clause. What is said of no limit or offset is that there is none. -/
def readClause? : List Piece → Option Cut
  | [] => some ⟨0, none⟩
  | [.word word, .mark ' ', .number digits] =>
    if word = "LIMIT".toList then some ⟨0, some (Digits.value digits)⟩
    else if word = "OFFSET".toList then some ⟨Digits.value digits, none⟩
    else none
  | [.word first, .mark ' ', .number limit, .mark ' ', .word second, .mark ' ', .number offset] =>
    if first = "LIMIT".toList ∧ second = "OFFSET".toList then
      some ⟨Digits.value offset, some (Digits.value limit)⟩
    else none
  | _ => none

/-- The cut that a text asks for. -/
def clauseCut? (text : List Char) : Option Cut := (pieces? text).bind readClause?

/-- The tokens of a clause. -/
def clauseTokens : Option UInt64 → Option UInt64 → List Token
  | none, none => []
  | some limit, none => [.keyword .limit, .keyword .space, .number limit]
  | none, some offset => [.keyword .offset, .keyword .space, .number offset]
  | some limit, some offset =>
    [.keyword .limit, .keyword .space, .number limit, .keyword .space, .keyword .offset,
      .keyword .space, .number offset]

theorem Window.draft_eq (window : Window) :
    window.draft = ofTokens (clauseTokens window.limit (window.skip.filter (0 < ·))) := by
  unfold Window.draft
  cases window.limit <;> cases window.skip.filter (0 < ·) <;> rfl

theorem readClause?_tokens (limit offset : Option UInt64) (bound : Nat) :
    readClause? (Token.piecesFrom bound (clauseTokens limit offset)) =
      some ⟨(offset.map UInt64.toNat).getD 0, limit.map UInt64.toNat⟩ := by
  have limits : Keyword.limit.pieces = [.word "LIMIT".toList] := by decide +kernel
  have offsets : Keyword.offset.pieces = [.word "OFFSET".toList] := by decide +kernel
  have space : Keyword.space.pieces = [.mark ' '] := by decide +kernel
  cases limit <;> cases offset <;>
    simp [clauseTokens, Token.piecesFrom, Token.pieces, limits, offsets, space, readClause?]

/-- Skipping none is not written, and read as such. -/
theorem getD_filter_positive (skip : Option UInt64) :
    ((skip.filter (0 < ·)).map UInt64.toNat).getD 0 = (skip.map UInt64.toNat).getD 0 := by
  cases skip with
  | none => rfl
  | some skip =>
    by_cases positive : 0 < skip
    · rw [Option.filter_some, decide_eq_true positive]
      rfl
    · have nothing : skip.toNat = 0 := by
        rw [UInt64.lt_iff_toNat_lt] at positive
        simpa using positive
      rw [Option.filter_some, decide_eq_false positive, Option.map_some, nothing]
      rfl

/-- **The clause of a window is read as what the window means.** -/
theorem clauseCut?_render (window : Window) (bound : Nat) :
    ∃ tokens, window.draft = ofTokens tokens ∧
      clauseCut? (Token.render bound tokens).toList = some window.cut := by
  refine ⟨_, window.draft_eq, ?_⟩
  have writes := window.draft_writes
  rw [window.draft_eq] at writes
  have apart : (clauseTokens window.limit (window.skip.filter (0 < ·))).IsChain Token.Apart :=
    writes.apart
  rw [Token.render, String.toList_ofList, clauseCut?, Token.pieces?_charsFrom apart,
    Option.bind_some, readClause?_tokens, getD_filter_positive]
  rfl

end Clauses

/-! ### Options of a find -/

section Options

/-- The cut that the options of a find ask for: a limit of zero is none. -/
def Mongo.FindOptions.cut (options : FindOptions) : Cut :=
  ⟨(options.skip.map fun skip => skip.toInt.toNat).getD 0,
    (options.limit.filter (· ≠ 0)).map fun limit => limit.toInt.natAbs⟩

/-- A limit that options can hold: zero is none, and the largest signed word is the largest. -/
def storedLimit? (limit : UInt64) : Option Nat :=
  if limit = 0 then none else some (min limit.toNat (2 ^ 63 - 1))

theorem Word.signed?_of_lt {number : Nat} (fits : number < 2 ^ 63) :
    Word.signed? number = some (Int64.ofInt number) := by
  rw [Word.signed?, if_pos (by omega)]

theorem signedLimit_cut (limit : UInt64) :
    ((some ((Word.signed? limit.toNat).getD Int64.maxValue)).filter (· ≠ 0)).map
      (fun limit => limit.toInt.natAbs) = storedLimit? limit := by
  unfold storedLimit?
  by_cases nothing : limit = 0
  · subst nothing
    decide +kernel
  rw [if_neg nothing]
  by_cases fits : limit.toNat < 2 ^ 63
  · have exact_ : (Int64.ofInt limit.toNat).toInt = limit.toNat :=
      Int64.toInt_ofInt_of_le (by omega) (by omega)
    have some_ : Int64.ofInt limit.toNat ≠ 0 := by
      intro zero
      rw [zero] at exact_
      exact nothing (UInt64.toNat_inj.mp (Int.natCast_inj.mp exact_.symm))
    rw [Word.signed?_of_lt fits, Option.getD_some, Option.filter_some, decide_eq_true some_]
    simp only [if_true, Option.map_some, exact_, Int.natAbs_natCast]
    rw [Nat.min_eq_left (by omega)]
  · rw [Word.signed?, if_neg (by omega), Nat.min_eq_right (by omega)]
    rfl

/-- **What the options of a find ask for.** There are none if the number to skip does not fit. -/
theorem findOptions_cases (query : FindQuery) :
    (∃ options, Mongo.findOptions query = .ok options ∧
        (∀ skip ∈ query.skip, skip.toNat < 2 ^ 63) ∧
        options.cut = ⟨query.window.cut.offset, query.limit.bind storedLimit?⟩) ∨
      Mongo.findOptions query = .error (.mongo .unsendable) ∧
        ∃ skip ∈ query.skip, 2 ^ 63 ≤ skip.toNat := by
  have limited : (query.signedLimit?.filter (· ≠ 0)).map (fun limit => limit.toInt.natAbs) =
      query.limit.bind storedLimit? := by
    unfold FindQuery.signedLimit?
    cases query.limit with
    | none => rfl
    | some limit => exact signedLimit_cut limit
  unfold Mongo.findOptions Window.cut FindQuery.window Mongo.FindOptions.cut
  cases query.skip with
  | none => exact .inl ⟨_, rfl, nofun, congrArg (Cut.mk 0) limited⟩
  | some skip =>
    by_cases fits : skip.toNat < 2 ^ 63
    · have exact_ : (Int64.ofInt skip.toNat).toInt = skip.toNat :=
        Int64.toInt_ofInt_of_le (by omega) (by omega)
      refine .inl ⟨_, by rw [Option.mapM_some, Word.signed?_of_lt fits]; rfl, ?_, ?_⟩
      · rintro _ ⟨⟩
        exact fits
      · simp only [limited, Option.map_some, Option.getD_some, exact_, Int.toNat_natCast]
    · refine .inr ⟨?_, skip, rfl, by omega⟩
      rw [Option.mapM_some, Word.signed?, if_neg (by omega)]
      rfl

end Options

/-! ### Agreement -/

/-- Fewer items are kept as long as there are fewer. -/
theorem Cut.apply_eq_iff {ρ : Type} (offset : Nat) (limit : UInt64) (items : List ρ) :
    (Cut.mk offset (storedLimit? limit)).apply items =
        (Cut.mk offset (some limit.toNat)).apply items ↔
      (limit = 0 → items.length ≤ offset) ∧
        (2 ^ 63 ≤ limit.toNat → items.length < offset + 2 ^ 63) := by
  unfold storedLimit? Cut.apply
  by_cases nothing : limit = 0
  · subst nothing
    simp [List.drop_eq_nil_iff]
  · rw [if_neg nothing]
    simp only [nothing, false_implies, true_and]
    constructor
    · intro same large
      have counted := congrArg List.length same
      simp only [List.length_take, List.length_drop] at counted
      omega
    · intro few
      by_cases fits : limit.toNat < 2 ^ 63
      · rw [Nat.min_eq_left (by omega)]
      · have short := few (by omega)
        rw [List.take_of_length_le, List.take_of_length_le] <;> rw [List.length_drop] <;> omega

/-- **Windows mean the same in statements and options up to both ends of the range.** The clause of
a statement keeps what the window means, of any matches, and a recording backend keeps as many.
There are options of a find unless the number to skip does not fit a signed word. They keep the same
matches exactly if there is none behind the skipped ones where the limit is zero, and not more than
a signed word counts where the limit is larger than that. -/
theorem windows_agree_iff {ρ : Type} (query : FindQuery) (found : List ρ) (recording : Recording) :
    (∃ tokens cut, query.window.draft = .ofTokens tokens ∧
      clauseCut? (Token.render 0 tokens).toList = some cut ∧
      cut.apply found = query.window.cut.apply found) ∧
    recording.matched query = (Cut.mk 0 query.window.cut.limit).apply recording.records ∧
    ((∃ options, Mongo.findOptions query = .ok options ∧
        (∀ skip ∈ query.skip, skip.toNat < 2 ^ 63) ∧
        (options.cut.apply found = query.window.cut.apply found ↔
          ∀ limit ∈ query.limit, (limit = 0 → found.length ≤ query.window.cut.offset) ∧
            (2 ^ 63 ≤ limit.toNat → found.length < query.window.cut.offset + 2 ^ 63))) ∨
      Mongo.findOptions query = .error (.mongo .unsendable) ∧
        ∃ skip ∈ query.skip, 2 ^ 63 ≤ skip.toNat) := by
  refine ⟨?clause, ?recorded, ?options⟩
  case clause =>
    obtain ⟨tokens, drafted, read⟩ := clauseCut?_render query.window 0
    exact ⟨tokens, _, drafted, read, rfl⟩
  case recorded =>
    unfold Recording.matched Window.cut FindQuery.window Cut.apply
    cases query.limit <;> rfl
  case options =>
    refine (findOptions_cases query).imp_left ?_
    rintro ⟨options, made, fits, asked⟩
    refine ⟨options, made, fits, ?_⟩
    rw [asked]
    show (Cut.mk query.window.cut.offset _).apply found =
      (Cut.mk query.window.cut.offset (query.limit.map UInt64.toNat)).apply found ↔ _
    cases query.limit with
    | none => simp
    | some limit =>
      rw [Option.bind_some, Option.map_some, Cut.apply_eq_iff]
      simp

/-- Everything of a class is meant, and nothing wanted. -/
def nothingWanted : FindQuery :=
  { FindQuery.empty with className := some "Person", limit := some 0 }

/-- A limit of zero keeps nothing in a statement and in a recording backend, and everything in the
options of a find. -/
theorem not_windows_agree_zero :
    ∃ tokens cut options, nothingWanted.window.draft = .ofTokens tokens ∧
      clauseCut? (Token.render 0 tokens).toList = some cut ∧
      cut.apply ["first", "second"] = [] ∧
      (Recording.mk [⟨"Person", some "a", none, none, []⟩] [] true).matched nothingWanted = [] ∧
      Mongo.findOptions nothingWanted = .ok options ∧
      options.cut.apply ["first", "second"] = ["first", "second"] := by
  obtain ⟨tokens, drafted, read⟩ := clauseCut?_render nothingWanted.window 0
  exact ⟨tokens, _, _, drafted, read, rfl, rfl, rfl, rfl⟩

end TwinStore
