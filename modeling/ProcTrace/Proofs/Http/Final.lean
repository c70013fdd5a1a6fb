import ProcTrace.Proofs.Http.Answered
import ProcTrace.Proofs.Http.Direct
import ProcTrace.Proofs.Http.Redirection

/-!
# The final reply of an exchange

Of the replies in an exchange only the last one can be final: it answers a request and leads to no
other (`finalReply?`). Whether there is one can be seen from the turns alone, and it is all that an
exchange results in (`exchange_resultsInFinal`): the answer is that of the final reply, and without
a final reply the exchange is a failure, be it that no request could be made, that the connection
was refused or dropped, or that the last reply led elsewhere and could not be followed.

Which turns there are follows from the URL of the operation, the network and the supply of replies
(`isCourse_exchange`): the turns go on as long as a reply can be followed.
-/

namespace ProcTrace.Http

/-- The reply of a turn **is final**: it answers the request and leads to no other. -/
def Turn.isFinal (t : Turn) : Bool :=
  !t.reply.dropped && (t.request.next? t.reply).isNone

theorem Turn.isFinal_of_next? {t : Turn} (h : ¬ t.reply.dropped)
    (hnext : t.request.next? t.reply = none) : t.isFinal := by
  simp [isFinal, h, hnext]

/-- A reply that leads to another request is not final. -/
theorem Turn.not_isFinal_of_next? {t : Turn} {r : Request}
    (h : t.request.next? t.reply = some r) : ¬ t.isFinal := by
  simp [isFinal, h]

/-- A connection that was dropped has no final reply. -/
theorem Turn.not_isFinal_of_dropped {t : Turn} (h : t.reply.dropped) : ¬ t.isFinal := by
  simp [isFinal, h]

/-- The **final reply** of an exchange with these turns. -/
def finalReply? (turns : List Turn) : Option Reply :=
  (turns.getLast?.filter Turn.isFinal).map (·.reply)

private theorem finalReply?_of_isFinal {t : Turn} (h : t.isFinal) :
    finalReply? [t] = some t.reply := by
  simp [finalReply?, Option.filter, h]

private theorem finalReply?_of_not_isFinal {t : Turn} (h : ¬ t.isFinal) :
    finalReply? [t] = none := by
  simp [finalReply?, Option.filter, h]

/-- A turn before others has no part in which reply is final. -/
private theorem finalReply?_cons (t : Turn) {turns : List Turn} (h : turns ≠ []) :
    finalReply? (t :: turns) = finalReply? turns := by
  obtain ⟨u, us, rfl⟩ := List.exists_cons_of_ne_nil h
  rw [finalReply?, List.getLast?_cons_cons, finalReply?]

/-- The turns **end with** a final reply of some kind. -/
def EndsWith (turns : List Turn) (kind : Reply → Prop) : Prop :=
  ∃ reply, finalReply? turns = some reply ∧ kind reply

/-- The turns are **unfinished**: they have no final reply. -/
def IsUnfinished (turns : List Turn) : Prop :=
  finalReply? turns = none

section

variable {turns : List Turn} {reply : Reply} {kind : Reply → Prop}

/-- The final reply alone decides what turns end with. -/
theorem endsWith_iff (h : finalReply? turns = some reply) : EndsWith turns kind ↔ kind reply := by
  simp [EndsWith, h]

theorem not_isUnfinished (h : finalReply? turns = some reply) : ¬ IsUnfinished turns := by
  simp [IsUnfinished, h]

theorem IsUnfinished.not_endsWith (h : IsUnfinished turns) : ¬ EndsWith turns kind := by
  rintro ⟨reply, hfinal, -⟩
  exact not_isUnfinished hfinal h

end

/-- The exchange **results in its final reply**, and fails if it has none. -/
def Exchange.ResultsInFinal (e : Exchange) : Prop :=
  match finalReply? e.turns with
  | some reply => e.result = .ok reply.answer
  | none => ∃ f, e.result = .error f

theorem Exchange.resultsInFinal_of_isFinal {t : Turn} (h : t.isFinal) :
    (Exchange.last t (.ok t.reply.answer)).ResultsInFinal := by
  simp only [ResultsInFinal, last, finalReply?_of_isFinal h]

theorem Exchange.resultsInFinal_of_not_isFinal {t : Turn} (h : ¬ t.isFinal) (f : Failure) :
    (Exchange.last t (.error f)).ResultsInFinal := by
  simp only [ResultsInFinal, last, finalReply?_of_not_isFinal h]
  exact ⟨f, rfl⟩

/-- What follows a turn that is not final decides about the result. -/
theorem Exchange.ResultsInFinal.after {e : Exchange} {t : Turn} (h : e.ResultsInFinal)
    (ht : ¬ t.isFinal) : (e.after t).ResultsInFinal := by
  obtain ⟨turns, result⟩ := e
  cases turns with
  | nil =>
    -- No connection was made, so that the turn before is the last one after all.
    have hturns : finalReply? [] = none := rfl
    simpa only [ResultsInFinal, Exchange.after, finalReply?_of_not_isFinal ht, hturns] using h
  | cons u us =>
    simpa only [ResultsInFinal, Exchange.after, finalReply?_cons t (List.cons_ne_nil u us)] using h

/-- What a request and those that it leads to result in. -/
private theorem follow_resultsInFinal (net : Network) (named : Url) (n : Nat) (replies : List Reply)
    (r : Request) : (follow net named n replies r).ResultsInFinal := by
  fun_induction follow net named n replies r with
  | case1 n replies r hreach turn hdropped =>
    exact Exchange.resultsInFinal_of_not_isFinal (Turn.not_isFinal_of_dropped hdropped) _
  | case2 n replies r hreach turn hdropped hnext =>
    exact Exchange.resultsInFinal_of_isFinal (Turn.isFinal_of_next? hdropped hnext)
  | case3 replies r hreach turn hdropped r' hnext =>
    exact Exchange.resultsInFinal_of_not_isFinal (Turn.not_isFinal_of_next? hnext) _
  | case4 replies r hreach turn hdropped r' n hnext htarget ih =>
    exact ih.after (Turn.not_isFinal_of_next? hnext)
  | case5 replies r hreach turn hdropped r' n hnext htarget =>
    exact Exchange.resultsInFinal_of_not_isFinal (Turn.not_isFinal_of_next? hnext) _
  | case6 => exact ⟨_, rfl⟩

/-- **An exchange results in its final reply**, and fails if there is none. -/
theorem exchange_resultsInFinal (net : Network) (replies : List Reply) (method : Method)
    (url : String) (content : Option Content) :
    (exchange net replies method url content).ResultsInFinal := by
  unfold exchange
  split
  · exact follow_resultsInFinal ..
  · exact ⟨_, rfl⟩

/-! ### The course of the turns -/

/-- The turns are the **course** from a URL through a supply of replies. It has a start if the URL
is received; the replies are given in their order; each but the last leads to the request after it;
and the last one is not followed, unless it would be one redirection too many, or nothing listens
where it leads. -/
structure IsCourse (net : Network) (url : String) (supply : List Reply) (turns : List Turn) :
    Prop where
  starts : turns ≠ [] ↔ net.receives url
  answered : AnsweredFrom supply turns
  followed : ∀ t ∈ turns.dropLast, t.isFollowed
  chained : turns.IsChain Turn.LeadsTo
  ends : ∀ t ∈ turns.getLast?, t.isFollowed → turns.length = redirectAllowance + 1 ∨
    ∀ r ∈ t.request.next? t.reply, ¬ net.reaches r.url

theorem Turn.not_isFollowed_of_dropped {t : Turn} (h : t.reply.dropped) : ¬ t.isFollowed := by
  simp [isFollowed, h]

/-- A reply is followed if and only if it leads to a request that can be made. -/
theorem Turn.isFollowed_iff {t : Turn} {r : Request} (h : ¬ t.reply.dropped)
    (hnext : t.request.next? t.reply = some r) : t.isFollowed ↔ isTarget r.url := by
  simp [isFollowed, h, hnext]

/-- There are turns if and only if the first request reaches a service. -/
private theorem turns_follow_ne_nil_iff {net : Network} {named : Url} {n : Nat}
    {replies : List Reply}
    {r : Request} : (follow net named n replies r).turns ≠ [] ↔ net.reaches r.url := by
  refine ⟨reaches_of_turns, fun h => ?_⟩
  fun_cases follow net named n replies r with
  | case6 => contradiction
  | _ => exact List.cons_ne_nil _ _

/-- All replies but the last are followed. -/
private theorem isFollowed_of_mem_dropLast (net : Network) (named : Url) (n : Nat)
    (replies : List Reply)
    (r : Request) : ∀ t ∈ (follow net named n replies r).turns.dropLast, t.isFollowed := by
  fun_induction follow net named n replies r with
  | case4 replies r hreach turn hdropped r' n hnext htarget ih =>
    generalize follow net named n replies.tail r' = e at ih ⊢
    obtain ⟨turns, result⟩ := e
    cases turns with
    | nil => simp [Exchange.after]
    | cons u us =>
      simp only [Exchange.after, List.dropLast_cons_cons, List.mem_cons, forall_eq_or_imp]
      exact ⟨(Turn.isFollowed_iff hdropped hnext).mpr htarget, ih⟩
  | _ => simp [Exchange.last]

/-- The last reply is followed only by what is one redirection too many, or reaches nothing. -/
private theorem getLast?_isFollowed (net : Network) (named : Url) (n : Nat) (replies : List Reply)
    (r : Request) : ∀ t ∈ (follow net named n replies r).turns.getLast?, t.isFollowed →
      (follow net named n replies r).turns.length = n + 1 ∨
        ∀ r' ∈ t.request.next? t.reply, ¬ net.reaches r'.url := by
  fun_induction follow net named n replies r with
  | case1 n replies r hreach turn hdropped =>
    rintro t ⟨⟩ h
    exact absurd h (Turn.not_isFollowed_of_dropped hdropped)
  | case2 n replies r hreach turn hdropped hnext =>
    rintro t ⟨⟩ -
    have hturn : turn.request.next? turn.reply = none := hnext
    exact .inr (by simp [hturn])
  | case3 replies r hreach turn hdropped r' hnext =>
    exact fun t ht h => .inl rfl
  | case4 replies r hreach turn hdropped r' n hnext htarget ih =>
    have hstart := @turns_follow_ne_nil_iff net named n replies.tail r'
    generalize follow net named n replies.tail r' = e at ih hstart ⊢
    obtain ⟨turns, result⟩ := e
    cases turns with
    | nil =>
      -- Nothing listens where this reply leads, so that it is the last one.
      rintro t ⟨⟩ -
      refine .inr fun r'' hr'' => ?_
      obtain rfl : r' = r'' := Option.some.inj (hnext.symm.trans hr'')
      simpa using hstart
    | cons u us =>
      intro t ht h
      simp only [Exchange.after, List.getLast?_cons_cons] at ht
      refine (ih t ht h).imp_left fun hlength => ?_
      simp only [Exchange.after, List.length_cons] at hlength ⊢
      rw [hlength]
  | case5 replies r hreach turn hdropped r' n hnext htarget =>
    rintro t ⟨⟩ h
    exact absurd ((Turn.isFollowed_iff hdropped hnext).mp h) htarget
  | case6 => simp

/-- **The turns of an exchange are the course from its URL** through the replies that it is
given. -/
theorem isCourse_exchange (net : Network) (replies : List Reply) (method : Method) (url : String)
    (content : Option Content) :
    IsCourse net url replies (exchange net replies method url content).turns := by
  refine ⟨⟨receives_of_turns (o := ⟨method, url, content⟩), fun h => ?_⟩,
    answeredFrom_exchange .., ?_, ?_, ?_⟩
  · obtain ⟨r, named, hopen, hreaches, -⟩ := open?_of_receives h method content
    simp only [exchange, hopen]
    exact turns_follow_ne_nil_iff.mpr hreaches
  all_goals unfold exchange; split
  · exact isFollowed_of_mem_dropLast net _ _ _ _
  · simp
  · exact isChain_follow ..
  · exact List.isChain_nil
  · exact getLast?_isFollowed net _ _ _ _
  · simp

end ProcTrace.Http
