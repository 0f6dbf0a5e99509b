/-
**Binding one by one.** A text may also be written from left to right with a list of arguments at
hand: an argument is pushed to the list, and its placeholder is the length that the list has then.
That is what the numbering of tokens comes to.

* `Generator.bind` pushes an argument and answers its placeholder.
* `Draft.write` writes a draft with it, until there is a fault. `write_append` and `write_argument`:
  joined drafts are written one after the other, and an argument is bound where it stands.
* `Token.run_writeAll`: the texts and the arguments are those of `Token.render` and
  `Token.arguments`. From that follow `Generator.run_eq_write` and `Generator.runAll_eq_write` for
  generators, and `Statement.run_writeAll` for statements.
-/

import TwinStore.Sql.Generator
import TwinStore.Sql.Statement

namespace TwinStore

/-- Pushes an argument and answers its placeholder. -/
def Generator.bind (argument : Argument) : StateM Generator String := do
  modify fun generator => ⟨generator.arguments ++ [argument]⟩
  return String.ofList ('$' :: Digits.ofNat (← get).arguments.length)

/-- One step after the other. -/
theorem Generator.run_step {α β : Type} (first : StateM Generator α)
    (next : α → StateM Generator β) (generator : Generator) :
    (first >>= next).run generator = (next (first.run generator).1).run (first.run generator).2 :=
  rfl

namespace Token

/-- Writes a token. An argument is bound; nothing else has a number. -/
def write : Token → StateM Generator String
  | .argument bound => Generator.bind bound
  | token => pure (String.ofList (token.chars 0))

/-- Writes tokens from left to right. -/
def writeAll : List Token → StateM Generator String
  | [] => pure ""
  | token :: rest => do return (← token.write) ++ (← writeAll rest)

/-- A token is written with the next number. -/
theorem run_write (token : Token) (generator : Generator) :
    token.write.run generator =
      (String.ofList (token.chars (generator.arguments.length + 1)),
        ⟨generator.arguments ++ arguments [token]⟩) := by
  cases token with
  | argument bound =>
    show (String.ofList ('$' :: Digits.ofNat (generator.arguments ++ [bound]).length), _) = _
    rw [List.length_append]
    rfl
  | _ =>
    rw [arguments, List.filterMap_cons_none rfl, List.filterMap_nil, List.append_nil]
    rfl

/-- **Tokens that are written one by one are numbered from left to right.** -/
theorem run_writeAll (tokens : List Token) (generator : Generator) :
    (writeAll tokens).run generator =
      (render generator.arguments.length tokens, ⟨generator.arguments ++ arguments tokens⟩) := by
  induction tokens generalizing generator with
  | nil =>
    rw [arguments, List.filterMap_nil, List.append_nil]
    rfl
  | cons token rest step =>
    have split : arguments (token :: rest) = arguments [token] ++ arguments rest :=
      arguments_append [token] rest
    rw [writeAll, Generator.run_step, run_write, Generator.run_step, step, split,
      ← List.append_assoc, List.length_append, render, render, charsFrom, String.ofList_append]
    rfl

end Token

namespace Draft

/-- Writes a draft up to its fault. -/
def write (draft : Draft) : StateM Generator (Except CompileError String) := do
  let text ← Token.writeAll draft.tokens
  return match draft.fault with
    | some error => .error error
    | none => .ok text

/-- What was bound before a fault stays bound. -/
theorem run_write (draft : Draft) (generator : Generator) :
    draft.write.run generator =
      (draft.finish.map (Token.render generator.arguments.length),
        ⟨generator.arguments ++ Token.arguments draft.tokens⟩) := by
  obtain ⟨tokens, fault⟩ := draft
  rw [write, Generator.run_step, Token.run_writeAll]
  cases fault <;> rfl

/-- **Joined drafts are written one after the other**, the second only if there is no fault in the
first. -/
theorem write_append (left right : Draft) :
    (left ++ right).write = do
      match ← left.write with
      | .error error => return .error error
      | .ok text => return (← right.write).map (text ++ ·) := by
  refine StateT.ext fun generator => ?_
  obtain ⟨tokens, fault⟩ := left
  obtain ⟨others, failure⟩ := right
  rw [run_write, Generator.run_step, run_write]
  cases fault with
  | some error => rfl
  | none =>
    have text : Token.render generator.arguments.length (tokens ++ others) =
        Token.render generator.arguments.length tokens ++
          Token.render (generator.arguments ++ Token.arguments tokens).length others := by
      rw [Token.render, Token.charsFrom_append, String.ofList_append, List.length_append]
      rfl
    have bound : generator.arguments ++ Token.arguments (tokens ++ others) =
        generator.arguments ++ Token.arguments tokens ++ Token.arguments others := by
      rw [Token.arguments_append, List.append_assoc]
    show (_, (⟨generator.arguments ++ Token.arguments (tokens ++ others)⟩ : Generator)) =
      (write ⟨others, failure⟩ >>= fun later => pure (later.map _)).run _
    rw [bound, Generator.run_step, run_write]
    cases failure with
    | some error => rfl
    | none => exact congrArg (fun written => (Except.ok written, _)) text

/-- An argument is bound where it stands. -/
theorem write_argument (bound : Argument) :
    (argument bound).write = .ok <$> Generator.bind bound := by
  refine StateT.ext fun generator => ?_
  have text : Token.render generator.arguments.length [.argument bound] =
      String.ofList ('$' :: Digits.ofNat (generator.arguments ++ [bound]).length) := by
    rw [Token.render, Token.charsFrom, Token.charsFrom, List.append_nil, List.length_append]
    rfl
  rw [run_write]
  exact congrArg (fun written => (Except.ok written, _)) text

end Draft

/-! ### Generators and statements -/

/-- **A generator writes what is written one by one**, and binds as much. -/
theorem Generator.run_eq_write (generator : Generator) (call : GeneratorCall) :
    call.draft.write.run generator = (generator.run call).swap :=
  call.draft.run_write generator

/-- Texts are written one after the other with the same list of arguments. -/
theorem Generator.runAll_eq_write (calls : List GeneratorCall) (generator : Generator) :
    (calls.mapM fun call : GeneratorCall => call.draft.write).run generator =
      (generator.runAll calls).swap := by
  induction calls generalizing generator with
  | nil => rfl
  | cons call rest step =>
    rw [List.mapM_cons, Generator.run_step, run_eq_write, Generator.run_step, step]
    rfl

/-- A statement is written with an empty list of arguments at first. -/
theorem Statement.run_writeAll (statement : Statement) :
    (Token.writeAll statement.tokens).run .empty = (statement.sql, ⟨statement.arguments⟩) :=
  Token.run_writeAll statement.tokens .empty

end TwinStore
