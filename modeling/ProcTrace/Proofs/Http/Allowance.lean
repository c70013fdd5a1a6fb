import ProcTrace.Proofs.Http.Final

/-!
# How often a request is made

Nothing is sent twice because it failed. A request is made again, elsewhere, only if the reply to it
redirects (`Turn.RedirectsTo`): a reply that was not dropped, with one of five statuses and a
location that a request can be made to. What else is in the reply, and whether its body breaks off,
has no part in it (`requests_exchange_congr`). So the turns of an exchange are those of a request
that is **made once** (`exchange_madeOnce`): they start with the request that was ordered, each goes
on from the one before it by a redirection, and there are no more of them than the allowance admits.

The allowance is used up by redirections that follow each other without end: then as many requests
are made as may be made, and the exchange is a failure (`exchange_of_leadsOn`).
-/

namespace ProcTrace.Http

/-! ### Redirections -/

/-- The statuses that lead elsewhere. -/
def redirectStatuses : List Status :=
  [301, 302, 303, 307, 308]

/-- The reply of a turn **redirects** to a request: it has a status that leads elsewhere and a
location that can be requested. -/
structure Turn.RedirectsTo (t : Turn) (r : Request) : Prop where
  answered : t.reply.dropped = false
  status : t.reply.status ∈ redirectStatuses
  location : ∃ place url, t.reply.header? "location" = some place ∧
    Url.parseWith (some t.request.url) place = some url ∧ r.url = url.withoutFragment
  usable : isTarget r.url
  next : t.request.next? t.reply = some r

/-- Only five statuses lead elsewhere. -/
private theorem mem_redirectStatuses {status : Status} {method : Method} {content : Option Content}
    {x : Method × Option Content} (h : redirected? status method content = some x) :
    status ∈ redirectStatuses := by
  unfold redirected? at h
  split at h
  all_goals first | decide | cases h

/-- A reply that leads to a request that can be made redirects to it. -/
theorem Turn.redirectsTo_iff {t : Turn} {r : Request} :
    t.RedirectsTo r ↔
      t.reply.dropped = false ∧ t.request.next? t.reply = some r ∧ isTarget r.url := by
  constructor
  · intro h
    exact ⟨h.answered, h.next, h.usable⟩
  · rintro ⟨hanswered, hnext, husable⟩
    have hparts := hnext
    simp only [Request.next?, Option.bind_eq_bind, Option.bind_eq_some_iff, Option.some.injEq]
      at hparts
    obtain ⟨_, hstatus, place, hplace, url, hurl, rfl⟩ := hparts
    exact ⟨hanswered, mem_redirectStatuses hstatus, ⟨place, url, hplace, hurl, rfl⟩, husable, hnext⟩

/-- A reply is followed if and only if it redirects. -/
theorem Turn.isFollowed_iff_redirectsTo {t : Turn} : t.isFollowed ↔ ∃ r, t.RedirectsTo r := by
  simp only [isFollowed, redirectsTo_iff, Bool.and_eq_true, Bool.not_eq_true', Option.any_eq_true]
  constructor
  · rintro ⟨hanswered, r, hnext, husable⟩
    exact ⟨r, hanswered, hnext, husable⟩
  · rintro ⟨r, hanswered, hnext, husable⟩
    exact ⟨hanswered, r, hnext, husable⟩

/-! ### Requests that are made once -/

/-- The turns are those of an order that is **made once**. -/
structure MadeOnce (o : Order) (turns : List Turn) : Prop where
  bounded : turns.length ≤ 11
  own : ∀ t ∈ turns.head?, t.request.method = o.method ∧ t.request.content = o.content ∧
    address? o.url = some t.request.url
  redirected : turns.IsChain fun t u => t.RedirectsTo u.request
  stops : ∀ before t after, turns = before ++ t :: after → (∀ r, ¬ t.RedirectsTo r) → after = []

/-- All turns but the last redirect to the one after them. -/
private theorem isChain_redirectsTo {turns : List Turn} (hchain : turns.IsChain Turn.LeadsTo)
    (hfollowed : ∀ t ∈ turns.dropLast, t.isFollowed) :
    turns.IsChain fun t u => t.RedirectsTo u.request := by
  induction turns with
  | nil => exact .nil
  | cons t turns ih =>
    cases turns with
    | nil => exact .singleton t
    | cons u turns =>
      obtain ⟨hlead, hchain⟩ := List.isChain_cons_cons.mp hchain
      rw [List.dropLast_cons_cons, List.forall_mem_cons] at hfollowed
      obtain ⟨r, hr⟩ := Turn.isFollowed_iff_redirectsTo.mp hfollowed.1
      obtain rfl : r = u.request := Option.some.inj (hr.next.symm.trans hlead)
      exact List.isChain_cons_cons.mpr ⟨hr, ih hchain hfollowed.2⟩

/-- Where a chain of redirections stops it is at its end. -/
private theorem after_eq_nil_of_isChain {before after : List Turn} {t : Turn}
    (h : (before ++ t :: after).IsChain fun t u => t.RedirectsTo u.request)
    (ht : ∀ r, ¬ t.RedirectsTo r) : after = [] := by
  cases after with
  | nil => rfl
  | cons u after =>
    have htail := (List.isChain_append.mp h).2.1
    exact absurd (List.isChain_cons_cons.mp htail).1 (ht u.request)

/-- The request that an order is opened with is its own. -/
private theorem open?_own {o : Order} {r : Request} {named : Url}
    (h : open? o.method o.url o.content = .ok (r, named)) :
    r.method = o.method ∧ r.content = o.content ∧ address? o.url = some r.url := by
  obtain ⟨hmethod, hcontent⟩ := open?_eq_ok h
  obtain ⟨u, hparse, -, -, hurl⟩ := parse_of_open?_eq_ok h
  refine ⟨hmethod, hcontent, ?_⟩
  rw [address?, hparse, hurl, Option.map_some]

/-- **Every order is made once**, whatever the network and the replies. -/
theorem exchange_madeOnce (net : Network) (replies : List Reply) (o : Order) :
    MadeOnce o (exchange net replies o.method o.url o.content).turns := by
  have hcourse := isCourse_exchange net replies o.method o.url o.content
  have hchain := isChain_redirectsTo hcourse.chained hcourse.followed
  refine ⟨?_, ?_, hchain, fun before t after heq ht => ?_⟩
  · unfold exchange
    split
    · exact length_turns_follow_le ..
    · exact Nat.zero_le _
  · unfold exchange
    split
    · next r named hopen =>
      intro t ht
      rw [head?_turns_follow _ _ _ _ _ t ht]
      exact open?_own hopen
    · rintro t ⟨⟩
  · rw [heq] at hchain
    exact after_eq_nil_of_isChain hchain ht

/-! ### What has a part in it -/

/-- Of a reply, what may have a request made again: neither its body nor where that breaks off. -/
def Reply.lead (reply : Reply) : Status × List (String × String) × Bool :=
  (reply.status, reply.headers, reply.dropped)

theorem Request.next?_congr {a b : Reply} (h : a.lead = b.lead) (r : Request) :
    r.next? a = r.next? b := by
  simp only [Reply.lead, Prod.mk.injEq] at h
  simp only [next?, Reply.header?, h]

private theorem dropped_congr {a b : Reply} (h : a.lead = b.lead) : a.dropped = b.dropped :=
  congrArg (·.2.2) h

/-- The first of replies that lead to the same leads to the same. -/
private theorem lead_headD {replies replies' : List Reply}
    (h : replies.map Reply.lead = replies'.map Reply.lead) :
    (replies.headD .plain).lead = (replies'.headD .plain).lead := by
  cases replies <;> cases replies' <;> simp_all

private theorem requests_follow_congr (net : Network) (named : Url) (n : Nat)
    {replies replies' : List Reply}
    (h : replies.map Reply.lead = replies'.map Reply.lead) (r : Request) :
    (follow net named n replies r).turns.map (·.request) =
      (follow net named n replies' r).turns.map (·.request) := by
  induction n generalizing replies replies' r with
  | zero =>
    have hlead := lead_headD h
    unfold follow
    simp only [Request.next?_congr hlead, dropped_congr hlead]
    rcases r.next? (replies'.headD .plain) with _ | r'
    all_goals split_ifs <;> rfl
  | succ n ih =>
    have hlead := lead_headD h
    have htail : replies.tail.map Reply.lead = replies'.tail.map Reply.lead := by
      rw [List.map_tail, h, List.map_tail]
    unfold follow
    simp only [Request.next?_congr hlead, dropped_congr hlead]
    rcases r.next? (replies'.headD .plain) with _ | r'
    · split_ifs <;> rfl
    · dsimp only
      split_ifs
      · rfl
      · exact congrArg (r :: ·) (ih htail r')
      · rfl
      · rfl

/-- **Bodies have no part in what is requested**: replies that differ in nothing else have the same
requests made. -/
theorem requests_exchange_congr (net : Network) {replies replies' : List Reply}
    (h : replies.map Reply.lead = replies'.map Reply.lead) (o : Order) :
    (exchange net replies o.method o.url o.content).turns.map (·.request) =
      (exchange net replies' o.method o.url o.content).turns.map (·.request) := by
  unfold exchange
  split
  · exact requests_follow_congr net _ _ h _
  · rfl

/-- Replies beyond those that can be followed are never given. -/
private theorem follow_take (net : Network) (named : Url) (n : Nat) (replies : List Reply)
    (r : Request) :
    follow net named n (replies.take (n + 1)) r = follow net named n replies r := by
  have hhead (m : Nat) (replies : List Reply) :
      (replies.take (m + 1)).headD .plain = replies.headD .plain := by
    cases replies <;> rfl
  induction n generalizing replies r with
  | zero =>
    unfold follow
    simp only [hhead]
    rcases r.next? (replies.headD .plain) with _ | r' <;> rfl
  | succ n ih =>
    have htail : (replies.take (n + 1 + 1)).tail = replies.tail.take (n + 1) := by
      cases replies <;> rfl
    unfold follow
    simp only [hhead, htail]
    rcases r.next? (replies.headD .plain) with _ | r'
    · rfl
    · simp only [ih]

/-- **However many replies a service would give, eleven are all that count.** -/
theorem exchange_take (net : Network) (replies : List Reply) (method : Method) (url : String)
    (content : Option Content) :
    exchange net (replies.take 11) method url content =
      exchange net replies method url content := by
  unfold exchange
  split
  · exact follow_take ..
  · rfl

/-! ### Redirections without end -/

/-- The first replies, as many as said, lead from a request to others that reach a service. -/
def leadsOn (net : Network) : Nat → List Reply → Request → Bool
  | 0, _, _ => true
  | _ + 1, [], _ => false
  | n + 1, reply :: replies, r =>
    !reply.dropped && (r.next? reply).any fun r' =>
      isTarget r'.url && net.reaches r'.url && leadsOn net n replies r'

/-- What the first of such replies does. -/
private theorem exists_of_leadsOn {net : Network} {n : Nat} {replies : List Reply} {r : Request}
    (h : leadsOn net (n + 1) replies r) :
    ∃ reply rest r', replies = reply :: rest ∧ reply.dropped = false ∧ r.next? reply = some r' ∧
      isTarget r'.url ∧ net.reaches r'.url ∧ leadsOn net n rest r' := by
  obtain _ | ⟨reply, rest⟩ := replies
  · cases h
  · simp only [leadsOn, Bool.and_eq_true, Bool.not_eq_true', Option.any_eq_true] at h
    obtain ⟨hdropped, r', hnext, ⟨htarget, hreaches⟩, hrest⟩ := h
    exact ⟨reply, rest, r', rfl, hdropped, hnext, htarget, hreaches, hrest⟩

/-- **Redirections without end use up the allowance**, and nothing comes of them. -/
theorem follow_of_leadsOn {net : Network} (named : Url) {n : Nat} {replies : List Reply}
    {r : Request} (hreaches : net.reaches r.url) (h : leadsOn net (n + 1) replies r) :
    (follow net named n replies r).turns.length = n + 1 ∧
      (follow net named n replies r).result = .error (.tooManyRedirects named) := by
  induction n generalizing replies r with
  | zero =>
    obtain ⟨reply, rest, r', rfl, hdropped, hnext, -⟩ := exists_of_leadsOn h
    unfold follow
    simp [hreaches, hdropped, hnext, Exchange.last]
  | succ n ih =>
    obtain ⟨reply, rest, r', rfl, hdropped, hnext, htarget, hreaches', hrest⟩ :=
      exists_of_leadsOn h
    have hfollow : follow net named (n + 1) (reply :: rest) r =
        (follow net named n rest r').after ⟨r, reply⟩ := by
      conv_lhs => unfold follow
      simp [hreaches, hdropped, hnext, htarget]
    obtain ⟨hlength, hresult⟩ := ih hreaches' hrest
    rw [hfollow]
    exact ⟨congrArg (· + 1) hlength, hresult⟩

/-- The exchange of an order whose redirections do not end. -/
theorem exchange_of_leadsOn {net : Network} {replies : List Reply} {o : Order} {r : Request}
    {named : Url} (hopen : open? o.method o.url o.content = .ok (r, named))
    (hreaches : net.reaches r.url) (h : leadsOn net 11 replies r) :
    (exchange net replies o.method o.url o.content).turns.length = 11 ∧
      (exchange net replies o.method o.url o.content).result =
        .error (.tooManyRedirects named) := by
  simp only [exchange, hopen]
  exact follow_of_leadsOn named hreaches h

end ProcTrace.Http
