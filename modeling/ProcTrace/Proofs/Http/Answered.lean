import ProcTrace.Http.Exchange

/-!
# Replies in their order

The service has a supply of replies and gives them in their order, one to every request that reaches
it; when they have run out it replies plainly. The turns of an exchange show this
(`answeredFrom_exchange`), and so do those of several exchanges that share a supply, if each of them
goes on where the one before it has stopped (`answeredFrom_append`).
-/

namespace ProcTrace.Http

/-- The turns are **answered from** a supply of replies, in its order. -/
inductive AnsweredFrom : List Reply → List Turn → Prop where
  | nil (supply : List Reply) : AnsweredFrom supply []
  | cons {supply : List Reply} {t : Turn} {ts : List Turn} (head : t.reply = supply.headD .plain)
      (tail : AnsweredFrom supply.tail ts) : AnsweredFrom supply (t :: ts)

private theorem answeredFrom_cons {supply : List Reply} {t : Turn} {ts : List Turn} :
    AnsweredFrom supply (t :: ts) ↔
      t.reply = supply.headD .plain ∧ AnsweredFrom supply.tail ts := by
  constructor
  · rintro (_ | ⟨head, tail⟩)
    exact ⟨head, tail⟩
  · rintro ⟨head, tail⟩
    exact .cons head tail

/-- Turns after others are answered from what those have left. -/
theorem answeredFrom_append {supply : List Reply} {ts us : List Turn} :
    AnsweredFrom supply (ts ++ us) ↔
      AnsweredFrom supply ts ∧ AnsweredFrom (supply.drop ts.length) us := by
  induction ts generalizing supply with
  | nil => simp [AnsweredFrom.nil]
  | cons t ts ih =>
    rw [List.cons_append, answeredFrom_cons, ih, answeredFrom_cons, and_assoc, List.length_cons,
      ← List.drop_one, List.drop_drop, Nat.add_comm]

private theorem answeredFrom_singleton {supply : List Reply} {t : Turn}
    (h : t.reply = supply.headD .plain) : AnsweredFrom supply [t] :=
  .cons h (.nil _)

/-- A chain of requests is answered from the replies that it is given. -/
private theorem answeredFrom_follow (net : Network) (named : Url) (n : Nat) (replies : List Reply)
    (r : Request) : AnsweredFrom replies (follow net named n replies r).turns := by
  fun_induction follow net named n replies r with
  | case4 _ _ _ _ _ _ _ _ _ ih => exact .cons rfl ih
  | case6 => exact .nil _
  | _ => exact answeredFrom_singleton rfl

/-- **An exchange is answered from the replies that it is given.** -/
theorem answeredFrom_exchange (net : Network) (replies : List Reply) (method : Method)
    (url : String) (content : Option Content) :
    AnsweredFrom replies (exchange net replies method url content).turns := by
  unfold exchange
  split
  · exact answeredFrom_follow ..
  · exact .nil _

end ProcTrace.Http
