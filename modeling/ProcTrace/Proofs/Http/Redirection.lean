import Mathlib.Data.List.Chain
import ProcTrace.Http.Exchange

/-!
# What redirections do to a request

The turns of an exchange form a chain: every request after the first is the one that the reply
before it leads to (`isChain_follow`). Some replies have a request **rewritten**, which means that
it is made again as a query without a body; all others have it made again as it was. A query stays
what it is, so that one reply that rewrites decides about the end of the chain
(`getLast?_request_of_isChain`). For an exchange that ends with a success this says which request
the service has accepted (`exchange_success`): the operation's own, unless it was rewritten.
-/

namespace ProcTrace.Http

/-- A reply of this status has a request of this method made again as a query without a body. -/
def Method.rewrittenBy (method : Method) (status : Status) : Bool :=
  status = 303 || (method = .post && (status = 301 || status = 302))

/-- A reply that leads elsewhere either rewrites the request or keeps its method and its body. -/
private theorem redirected?_eq_some {status : Status} {method : Method} {content : Option Content}
    {x : Method × Option Content} (h : redirected? status method content = some x) :
    x = if method.rewrittenBy status then (.get, none) else (method, content) := by
  unfold redirected? at h
  split at h <;> simp_all [Method.rewrittenBy]

/-- A success leads nowhere else. -/
private theorem redirected?_of_isSuccess {status : Status} (h : status.isSuccess) (method : Method)
    (content : Option Content) : redirected? status method content = none := by
  unfold redirected?
  split <;> first | rfl | exact absurd h (by decide)

/-- A success rewrites nothing. -/
private theorem rewrittenBy_of_isSuccess {status : Status} (h : status.isSuccess)
    (method : Method) :
    method.rewrittenBy status = false := by
  have hne (n : Nat) (hn : 300 ≤ n) : status ≠ n := by
    rintro rfl
    simp only [Status.isSuccess, Bool.and_eq_true, decide_eq_true_eq] at h
    exact absurd h.2 (Nat.not_lt.mpr hn)
  simp [Method.rewrittenBy, hne 301, hne 302, hne 303]

/-- The method and the body of the request that a reply leads to. -/
theorem Request.next?_eq_some {r r' : Request} {reply : Reply} (h : r.next? reply = some r') :
    (r'.method, r'.content) =
      if r.method.rewrittenBy reply.status then (.get, none) else (r.method, r.content) := by
  simp only [Request.next?, Option.bind_eq_bind, Option.bind_eq_some_iff, Option.some.injEq] at h
  obtain ⟨⟨method, content⟩, hredirected, _, _, _, _, rfl⟩ := h
  exact redirected?_eq_some hredirected

/-- A reply that leads to another request is no success. -/
theorem Request.not_isSuccess_of_next? {r r' : Request} {reply : Reply}
    (h : r.next? reply = some r') : reply.status.isSuccess = false := by
  by_contra hne
  have hsuccess : reply.status.isSuccess := by simpa using hne
  simp [Request.next?, redirected?_of_isSuccess hsuccess] at h

/-! ### The chain of turns -/

/-- A request, and the one that the reply to it leads to. -/
def Turn.LeadsTo (t u : Turn) : Prop :=
  t.request.next? t.reply = some u.request

/-- The first turn is that of the request that the exchange starts with. -/
theorem head?_turns_follow (net : Network) (named : Url) (n : Nat) (replies : List Reply)
    (r : Request) : ∀ t ∈ (follow net named n replies r).turns.head?, t.request = r := by
  fun_cases follow net named n replies r <;> rintro t ⟨⟩ <;> rfl

/-- **The turns of an exchange are a chain**: each request after the first is the one that the reply
before it leads to. -/
theorem isChain_follow (net : Network) (named : Url) (n : Nat) (replies : List Reply)
    (r : Request) : (follow net named n replies r).turns.IsChain Turn.LeadsTo := by
  fun_induction follow net named n replies r with
  | case4 replies r hreach turn hdropped r' n hnext htarget ih =>
    rw [Exchange.after, List.isChain_cons]
    refine ⟨fun u hu => ?_, ih⟩
    rw [Turn.LeadsTo, head?_turns_follow _ _ _ _ _ u hu]
    exact hnext
  | _ => simp [Exchange.last]

/-- The request at the end of a chain: the first one, or a query without a body if a reply on the
way there rewrote it. -/
theorem getLast?_request_of_isChain {turns : List Turn} (h : turns.IsChain Turn.LeadsTo)
    {t u : Turn} (ht : t ∈ turns.head?) (hu : u ∈ turns.getLast?) :
    (u.request.method, u.request.content) =
      if turns.dropLast.any fun v => t.request.method.rewrittenBy v.reply.status then (.get, none)
      else (t.request.method, t.request.content) := by
  induction turns generalizing t with
  | nil => simp at hu
  | cons v turns ih =>
    obtain rfl : v = t := by simpa using ht
    cases turns with
    | nil => simp_all
    | cons w turns =>
      obtain ⟨hlead, hchain⟩ := List.isChain_cons_cons.mp h
      -- If the first reply rewrites, the rest starts with a query, which no reply changes; if not,
      -- the rest starts with the same method and body, and the first reply has no part in it.
      have hw := Request.next?_eq_some hlead
      rw [ih hchain rfl (by simpa using hu)]
      cases hv : v.request.method.rewrittenBy v.reply.status with
      | true =>
        rw [hv, if_pos rfl, Prod.mk.injEq] at hw
        simp [hv, hw]
      | false =>
        rw [hv, if_neg (by simp), Prod.mk.injEq] at hw
        simp [hv, hw]

/-- All turns but the last have replies that lead elsewhere, so at most the last is a success. -/
private theorem filter_isSuccess_dropLast {turns : List Turn} (h : turns.IsChain Turn.LeadsTo) :
    turns.dropLast.filter (·.reply.status.isSuccess) = [] := by
  induction turns with
  | nil => rfl
  | cons t turns ih =>
    cases turns with
    | nil => rfl
    | cons u turns =>
      obtain ⟨hlead, hchain⟩ := List.isChain_cons_cons.mp h
      rw [List.dropLast_cons_cons, List.filter_cons_of_neg, ih hchain]
      simp [Request.not_isSuccess_of_next? hlead]

/-! ### What a success accepts -/

/-- The first request of an operation has its method and its body. -/
theorem open?_eq_ok {method : Method} {url : String} {content : Option Content} {r : Request}
    {named : Url} (h : open? method url content = .ok (r, named)) :
    r.method = method ∧ r.content = content := by
  unfold open? at h
  split at h
  · simp at h
  · split at h
    · dsimp only at h
      split at h
      · simp only [Except.ok.injEq, Prod.mk.injEq] at h
        obtain ⟨rfl, -⟩ := h
        exact ⟨rfl, rfl⟩
      · simp at h
    · simp at h

/-- An exchange with an answer has made its requests, the first of them being the operation's. -/
private theorem exchange_ok {net : Network} {replies : List Reply} {method : Method} {url : String}
    {content : Option Content} {a : Answer}
    (h : (exchange net replies method url content).result = .ok a) :
    ∃ t u, t ∈ (exchange net replies method url content).turns.head? ∧
      t.request.method = method ∧ t.request.content = content ∧
      u ∈ (exchange net replies method url content).turns.getLast? ∧ u.reply.answer = a ∧
      (exchange net replies method url content).turns.IsChain Turn.LeadsTo := by
  unfold exchange at h ⊢
  cases hopen : open? method url content with
  | error f => simp [hopen] at h
  | ok x =>
    obtain ⟨r, named⟩ := x
    simp only [hopen] at h ⊢
    obtain ⟨u, hlast, ha⟩ := follow_ok h
    obtain ⟨t, ht⟩ : ∃ t, t ∈ (follow net named redirectAllowance replies r).turns.head? := by
      cases hturns : (follow net named redirectAllowance replies r).turns <;> simp_all
    have hr := open?_eq_ok hopen
    rw [← head?_turns_follow _ _ _ _ _ t ht] at hr
    exact ⟨t, u, ht, hr.1, hr.2, hlast, ha, isChain_follow ..⟩

/-- **What a success accepts.** If the answer of an exchange is a success, then it is the only
success among the replies, and the request that it answers is the operation's own, unless a reply
before it had that rewritten. -/
theorem exchange_success {net : Network} {replies : List Reply} {method : Method} {url : String}
    {content : Option Content} {a : Answer}
    (h : (exchange net replies method url content).result = .ok a) (ha : a.status.isSuccess) :
    ∃ u, (exchange net replies method url content).turns.filter (·.reply.status.isSuccess) = [u] ∧
      u.reply.answer = a ∧
      (u.request.method, u.request.content) =
        if (exchange net replies method url content).turns.any
          fun v => method.rewrittenBy v.reply.status then (.get, none) else (method, content) := by
  obtain ⟨t, u, ht, rfl, rfl, hu, rfl, hchain⟩ := exchange_ok h
  -- From here on only the list of turns matters, and not how the exchange came by it.
  generalize (exchange net replies t.request.method url t.request.content).turns = turns at *
  have hsuccess : u.reply.status.isSuccess := ha
  have hsplit : turns = turns.dropLast ++ [u] := (List.dropLast_append_getLast? u hu).symm
  refine ⟨u, ?_, rfl, ?_⟩
  · rw [hsplit, List.filter_append, filter_isSuccess_dropLast hchain, List.nil_append,
      List.filter_singleton, hsuccess]
    rfl
  · rw [getLast?_request_of_isChain hchain ht hu]
    conv_rhs => rw [hsplit, List.any_append]
    simp [rewrittenBy_of_isSuccess hsuccess]

/-- The success answers the operation's own request if and only if no reply rewrote that. -/
theorem exchange_success_iff {net : Network} {replies : List Reply} {method : Method}
    {url : String} {content : Option Content} {a : Answer} (hmethod : method ≠ .get)
    (h : (exchange net replies method url content).result = .ok a) (ha : a.status.isSuccess) :
    ∃ u, (exchange net replies method url content).turns.filter (·.reply.status.isSuccess) = [u] ∧
      (u.request.method = method → u.request.content = content) ∧
      (u.request.method = method ↔ ∀ v ∈ (exchange net replies method url content).turns,
        method.rewrittenBy v.reply.status = false) := by
  obtain ⟨u, hfilter, -, hrequest⟩ := exchange_success h ha
  refine ⟨u, hfilter, ?_⟩
  split at hrequest
  case isTrue hany =>
    obtain ⟨v, hv, hrewritten⟩ := List.any_eq_true.mp hany
    obtain ⟨hget, -⟩ := Prod.mk.inj hrequest
    have hne : u.request.method ≠ method := fun heq => hmethod (heq ▸ hget)
    refine ⟨fun heq => absurd heq hne, ?_⟩
    constructor
    · intro heq
      exact absurd heq hne
    · intro hall
      simp [hall v hv] at hrewritten
  case isFalse hany =>
    obtain ⟨hsame, hcontent⟩ := Prod.mk.inj hrequest
    refine ⟨fun _ => hcontent, ?_⟩
    constructor
    · intro _ v hv
      have hkept : ¬ method.rewrittenBy v.reply.status = true := fun hrewritten =>
        hany (List.any_eq_true.mpr ⟨v, hv, hrewritten⟩)
      simpa using hkept
    · intro _
      exact hsame

end ProcTrace.Http
