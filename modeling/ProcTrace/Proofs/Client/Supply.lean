import ProcTrace.Proofs.Client.Contract
import ProcTrace.Proofs.Client.Course
import ProcTrace.Proofs.Http.Answered

/-!
# Programs with one supply of replies

A program names the replies to each of its steps. A service knows nothing of steps: it has one
supply of replies, and a step finds what the steps before it have left. Here a program is given its
replies from one supply (`Program.supplied`). How many of them a step uses up depends on the step's
own exchange, so that this goes along with the run.

Nothing but the replies is changed (`supplied_bare`); and over the whole run, scopes included, the
replies are those of the supply in their order (`run_supplied`).
-/

namespace ProcTrace.Client

open Http (AnsweredFrom Reply Turn answeredFrom_append)

variable (net : Http.Network)

/-- The program with the replies to its steps taken from one **supply**, and what it leaves of the
supply. What a panic keeps from being run uses up nothing. -/
def Program.supplied : Program → Client → List Reply → Program × List Reply
  | .call k _ rest, c, supply =>
    let (c', note) := c.perform net k supply
    let (rest, left) := supplied rest c' (supply.drop note.turns.length)
    (.call k supply rest, left)
  | .scope s body rest, c, supply =>
    let s := { s with entryReplies := supply }
    let (c', entry) := c.enter net s
    let (body, left) := supplied body c' (supply.drop entry.turns.length)
    let inner := body.run net c'
    let s := { s with exitReplies := left }
    let left := left.drop (inner.client.exit net s inner.ending).turns.length
    match s.escaping? inner.ending with
    | some _ => (.scope s body rest, left)
    | none =>
      let (rest, left) := supplied rest inner.client left
      (.scope s body rest, left)
  | p, _, supply => (p, supply)

/-- All turns of a run in their order. -/
def Run.allTurns (r : Run) : List Turn :=
  r.notes.flatMap (·.turns)

/-- All events of a run in their order. -/
def Run.allEvents (r : Run) : List Event :=
  r.notes.flatMap (·.events)

/-- **A program is supplied with replies and with nothing else.** -/
theorem supplied_bare (p : Program) (c : Client) (supply : List Reply) :
    (p.supplied net c supply).1.bare = p.bare := by
  induction p generalizing c supply with
  | finish | leave | panic => rfl
  | call k replies rest ih => simp only [Program.supplied, Program.bare, ih]
  | scope s body rest ihbody ihrest =>
    simp only [Program.supplied]
    split
    · simp only [Program.bare, ihbody, Scope.bare]
    · simp only [Program.bare, ihbody, ihrest, Scope.bare]

/-! ### The replies in a run -/

variable {net}

/-- A call is answered from the replies that it is given. -/
private theorem perform_answeredFrom (c : Client) (k : Call) (replies : List Reply) :
    AnsweredFrom replies (c.perform net k replies).2.turns := by
  rw [perform_turns]
  split
  · exact Http.answeredFrom_exchange ..
  · exact .nil _

/-- So is the entry of a scope. -/
private theorem enter_answeredFrom (c : Client) (s : Scope) :
    AnsweredFrom s.entryReplies (c.enter net s).2.turns := by
  have hturns := congrArg Trace.turns (@enter_trace net c s)
  simp only [Note.trace] at hturns
  rw [hturns]
  exact perform_answeredFrom ..

/-- And so is its exit. -/
private theorem exit_answeredFrom (c : Client) (s : Scope) (how : Ending) :
    AnsweredFrom s.exitReplies (c.exit net s how).turns := by
  have hturns := congrArg Trace.turns (@exit_trace net c s how)
  simp only [Note.trace] at hturns
  rw [hturns]
  exact perform_answeredFrom ..

/-- The replies at the exit of a scope have no part in how it is entered. -/
private theorem enter_exitReplies (c : Client) (s : Scope) (replies : List Reply) :
    c.enter net { s with exitReplies := replies } = c.enter net s := by
  simp only [enter]

/-- A scope is answered from one supply if its body goes on where the entry has stopped, and the
exit where the body has. -/
private theorem scope_answeredFrom {s : Scope} {c : Client} {inner : Run}
    (hinner : AnsweredFrom (s.entryReplies.drop (c.enter net s).2.turns.length) inner.allTurns)
    (hexit : s.exitReplies =
      (s.entryReplies.drop (c.enter net s).2.turns.length).drop inner.allTurns.length) :
    let notes := (c.enter net s).2 :: inner.notes ++ [inner.client.exit net s inner.ending]
    AnsweredFrom s.entryReplies (notes.flatMap (·.turns)) ∧
      s.exitReplies.drop (inner.client.exit net s inner.ending).turns.length =
        s.entryReplies.drop (notes.flatMap (·.turns)).length := by
  intro notes
  have hturns : notes.flatMap (·.turns) = (c.enter net s).2.turns ++
      (inner.allTurns ++ (inner.client.exit net s inner.ending).turns) := by
    simp [notes, Run.allTurns]
  rw [hturns, answeredFrom_append, answeredFrom_append, ← hexit]
  refine ⟨⟨enter_answeredFrom c s, hinner, exit_answeredFrom ..⟩, ?_⟩
  rw [hexit]
  simp only [List.drop_drop, List.length_append, Nat.add_assoc]

/-- **A run is answered from the supply of its program**, and leaves what its turns have not used
up. -/
theorem run_supplied (p : Program) (c : Client) (supply : List Reply) :
    AnsweredFrom supply ((p.supplied net c supply).1.run net c).allTurns ∧
      (p.supplied net c supply).2 =
        supply.drop ((p.supplied net c supply).1.run net c).allTurns.length := by
  induction p generalizing c supply with
  | finish | leave | panic => exact ⟨.nil _, rfl⟩
  | call k replies rest ih =>
    obtain ⟨hanswered, hleft⟩ := ih (c.perform net k supply).1
      (supply.drop (c.perform net k supply).2.turns.length)
    simp only [Program.supplied, run_call, Run.allTurns, List.flatMap_cons] at hanswered hleft ⊢
    rw [answeredFrom_append, hleft, List.drop_drop, List.length_append]
    exact ⟨⟨perform_answeredFrom .., hanswered⟩, rfl⟩
  | scope s body rest ihbody ihrest =>
    obtain ⟨hinner, hleft⟩ := ihbody (c.enter net { s with entryReplies := supply }).1
      (supply.drop (c.enter net { s with entryReplies := supply }).2.turns.length)
    simp only [Program.supplied]
    -- The supplied body, and what it leaves, matter only through what `ihbody` says; and the scope
    -- is entered in the same way before and after it is known what its exit is replied.
    generalize body.supplied net (c.enter net { s with entryReplies := supply }).1
      (supply.drop (c.enter net { s with entryReplies := supply }).2.turns.length) = x at *
    obtain ⟨body, left⟩ := x
    have hentered := @enter_exitReplies net c { s with entryReplies := supply } left
    rw [← hentered] at hinner hleft ⊢
    obtain ⟨hscope, hexit⟩ := scope_answeredFrom hinner hleft
    dsimp only at hscope hexit ⊢
    generalize { s with entryReplies := supply, exitReplies := left } = s' at *
    generalize hbody : body.run net (c.enter net s').1 = inner at *
    generalize left.drop (inner.client.exit net s' inner.ending).turns.length = onward at *
    split
    · next message h =>
      rw [Run.allTurns, run_scope_of_escaping (by rwa [hbody]), hbody]
      exact ⟨hscope, hexit⟩
    · next h =>
      obtain ⟨hrest, hleft'⟩ := ihrest inner.client onward
      rw [Run.allTurns, run_scope_of_kept (by rwa [hbody]), hbody]
      rw [List.flatMap_append, answeredFrom_append, ← hexit, hleft', hexit, List.drop_drop,
        List.length_append]
      rw [hexit] at hrest
      exact ⟨⟨hscope, hrest⟩, rfl⟩

end ProcTrace.Client
