import ProcTrace.Http.Exchange

/-!
# Requests that are made once

What goes over the wire when nothing leads elsewhere. An operation **orders** a request with a
method, a URL in the words of the client, and a body. The request that is made for an order goes to
the URL that these words stand for, without a fragment, and without the user that the URL names as
far as that can be read (`address?`). A user that cannot be read stays in the URL, since no
authorization can be made from it.

If the network receives the URL of an order and no reply is followed, then the exchange of the order
has one turn, and the request of that turn is the one ordered (`exchange_of_receives`).
-/

namespace ProcTrace

/-- The URL without the user and the password that it names. -/
def Url.withoutUser (u : Url) : Url :=
  { u with authority := u.authority.map fun a => { a with username := [], password := none } }

namespace Http

/-! ### Users that can be read -/

/-- The user that an authority names **can be read**: the user name is the escaped form of a text,
and if it is empty so is the password. -/
def isReadable (a : Url.Authority) : Bool :=
  (decodePart a.username).isSome &&
    (a.username ≠ [] || a.password.all fun p => (decodePart p).isSome)

/-- The URL that a request is made to: a user that can be read is taken out. -/
def addressed (u : Url) : Url :=
  if u.authority.all isReadable then u.withoutUser else u

/-- Only the user is taken out. -/
theorem addressed_parts (u : Url) :
    (addressed u).scheme = u.scheme ∧ (addressed u).path = u.path ∧
      (addressed u).query = u.query := by
  unfold addressed
  split <;> exact ⟨rfl, rfl, rfl⟩

/-- The schemes of the web are special, and that of files is not among them. -/
theorem isSpecial_of_isWeb {u : Url} (h : isWeb u) :
    Url.isSpecial u.scheme ∧ u.scheme ≠ "file".toList := by
  simp only [isWeb, Bool.or_eq_true, decide_eq_true_eq] at h
  obtain h | h := h <;> rw [h] <;> decide

/-- A byte leaves a piece, and so does a character that has been started. -/
private theorem piecesAfter_ne_nil {p : Option Text.Utf8.Pending} {bs : Text.Bytes}
    (h : p.isSome ∨ bs ≠ []) : Text.Utf8.piecesAfter p bs ≠ [] := by
  induction bs generalizing p with
  | nil =>
    cases p with
    | none => simp at h
    | some p => simp [Text.Utf8.piecesAfter]
  | cons b bs ih =>
    have hpending (q : Text.Utf8.Pending) : Text.Utf8.piecesAfter (some q) bs ≠ [] := ih (.inl rfl)
    cases p with
    | none =>
      rw [Text.Utf8.piecesAfter]
      split <;> simp [hpending]
    | some p =>
      rw [Text.Utf8.piecesAfter]
      split
      · split <;> simp [hpending]
      · simp

/-- A text that is not empty stands for some bytes. -/
private theorem percentDecode_ne_nil {cs : List Char} (h : cs ≠ []) :
    Url.percentDecode cs ≠ [] := by
  unfold Url.percentDecode
  split
  · split <;> simp
  · next c r _ =>
    have hwidth : 0 < (String.utf8EncodeChar c).length := by
      rw [String.length_utf8EncodeChar]
      exact c.utf8Size_pos
    exact List.append_ne_nil_of_left_ne_nil (List.ne_nil_of_length_pos hwidth) _
  · exact absurd rfl h

/-- Only the empty part of a URL stands for the empty text. -/
private theorem decodePart_ne_nil {cs : List Char} (h : cs ≠ []) : decodePart cs ≠ some [] := by
  have hpieces := piecesAfter_ne_nil (p := none) (.inr (percentDecode_ne_nil h))
  rw [decodePart, Text.Utf8.decode?, Text.Utf8.pieces]
  cases hp : Text.Utf8.piecesAfter none (Url.percentDecode cs) with
  | nil => exact absurd hp hpieces
  | cons p ps =>
    cases p with
    | none => simp
    | some c => simp [Option.bind_eq_some_iff]

/-- An authority has credentials unless they cannot be read or there are none. -/
private theorem credentials?_eq_none {a : Url.Authority} (h : credentials? a = none) :
    isReadable a = false ∨ a.username = [] ∧ a.password = none := by
  cases huser : decodePart a.username with
  | none => simp [isReadable, huser]
  | some user =>
    simp only [credentials?, huser, Option.bind_eq_bind, Option.bind_some] at h
    split at h
    case isFalse => simp at h
    case isTrue hnone =>
      obtain ⟨rfl, hpassword⟩ := hnone
      have hname : a.username = [] := by
        by_cases hne : a.username = []
        · exact hne
        · exact absurd huser (decodePart_ne_nil hne)
      cases hp : a.password with
      | none => exact .inr ⟨hname, rfl⟩
      | some p =>
        rw [hp, Option.bind_some] at hpassword
        exact .inl (by simp [isReadable, hname, hp, hpassword])

/-- Credentials are made from what can be read. -/
private theorem isReadable_of_credentials? {a : Url.Authority} {x : List Char × List Char}
    (h : credentials? a = some x) : isReadable a = true := by
  cases huser : decodePart a.username with
  | none => simp [credentials?, huser] at h
  | some user =>
    simp only [credentials?, huser, Option.bind_eq_bind, Option.bind_some] at h
    split at h
    case isTrue => simp at h
    case isFalse hsome =>
      by_cases hname : a.username = []
      · -- Without a user name it is the password that the credentials are made from.
        have huser' : user = [] := by
          rw [hname] at huser
          exact (Option.some.inj huser).symm
        cases hp : a.password with
        | none => simp [huser', hp] at hsome
        | some p =>
          rw [hp, Option.bind_some] at hsome
          have hp' : (decodePart p).isSome := by
            rw [Option.isSome_iff_ne_none]
            exact fun hnone => hsome ⟨huser', hnone⟩
          simp [isReadable, huser, hp, hp']
      · simp [isReadable, huser, hname]

/-- **What becomes of the user in a URL**: it is taken out if it can be read, and stays if not. -/
theorem extractUser_fst (u : Url) : (extractUser u).1 = addressed u := by
  obtain ⟨scheme, authority, path, query, fragment⟩ := u
  cases authority with
  | none => rfl
  | some a =>
    simp only [extractUser, addressed, Option.all_some]
    cases h : credentials? a with
    | none =>
      obtain hunreadable | ⟨hname, hpassword⟩ := credentials?_eq_none h
      · simp [hunreadable]
      · obtain ⟨username, password, host, port⟩ := a
        obtain ⟨rfl, rfl⟩ : username = [] ∧ password = none := ⟨hname, hpassword⟩
        simp [Url.withoutUser]
    | some x => simp [isReadable_of_credentials? h, Url.withoutUser]

/-! ### Orders -/

/-- What an operation orders, and what a service records of a request: the method, the text of the
URL, and the body. -/
structure Order where
  method : Method
  url : String
  content : Option Content
  deriving DecidableEq, Repr

/-- What a service records of a request. -/
def Request.order (r : Request) : Order :=
  ⟨r.method, r.url.toString, r.content⟩

/-- The URL of the request that is made for a text, if the text is a URL. -/
def address? (url : String) : Option Url :=
  (Url.parse url).map fun u => (addressed u).withoutFragment

/-- The URL has no fragment, and a user that it names **cannot be read**. -/
def IsBare (u : Url) : Prop :=
  u.fragment = none ∧ (u.authority.all isReadable → u.withoutUser = u)

/-- Requests are made to bare URLs. -/
theorem isBare_of_address? {url : String} {u : Url} (h : address? url = some u) : IsBare u := by
  obtain ⟨v, -, rfl⟩ := Option.map_eq_some_iff.mp h
  refine ⟨rfl, fun hreadable => ?_⟩
  unfold addressed at hreadable ⊢
  split at hreadable
  case isTrue hv =>
    rw [if_pos hv]
    simp [Url.withoutUser, Url.withoutFragment, Function.comp_def]
  case isFalse hv => exact absurd hreadable hv

/-- What is recorded for an order. -/
def Order.recorded? (o : Order) : Option Order :=
  (address? o.url).map fun u => { o with url := u.toString }

/-- A request to the URL can be made and **reaches a service**. -/
def Network.receives (net : Network) (url : String) : Bool :=
  (Url.parse url).any fun u =>
    u.hasHost && isTarget (addressed u) && net.reaches (addressed u).withoutFragment

/-- The first request of an order that is received. -/
theorem open?_of_receives {net : Network} {url : String} (h : net.receives url) (method : Method)
    (content : Option Content) :
    ∃ r named, open? method url content = .ok (r, named) ∧ net.reaches r.url ∧
      r.method = method ∧ r.content = content ∧ address? url = some r.url := by
  cases hparse : Url.parse url with
  | none => simp [Network.receives, hparse] at h
  | some u =>
    simp only [Network.receives, hparse, Option.any_some, Bool.and_eq_true] at h
    obtain ⟨⟨hhost, htarget⟩, hreaches⟩ := h
    rw [← extractUser_fst] at htarget hreaches
    refine ⟨⟨method, (extractUser u).1.withoutFragment, content, (extractUser u).2⟩,
      (extractUser u).1, ?_, hreaches, rfl, rfl, ?_⟩
    · simp only [open?, hparse, hhost, if_true, htarget]
    · rw [address?, hparse, Option.map_some, extractUser_fst]

/-! ### Exchanges without redirection -/

/-- The reply of a turn **is followed**: it leads to a request that can be made. -/
def Turn.isFollowed (t : Turn) : Bool :=
  !t.reply.dropped && (t.request.next? t.reply).any fun r => isTarget r.url

/-- If no reply is followed there is one turn. -/
private theorem follow_of_not_followed {net : Network} {named : Url} {n : Nat}
    {replies : List Reply} {r : Request} (hreaches : net.reaches r.url)
    (h : ∀ t ∈ (follow net named n replies r).turns, t.isFollowed = false) :
    (follow net named n replies r).turns = [⟨r, replies.headD .plain⟩] := by
  unfold follow at h ⊢
  rw [if_pos hreaches] at h ⊢
  dsimp only at h ⊢
  split
  · rfl
  · next hdropped =>
    split
    · rfl
    · rfl
    · next r' m hnext =>
      split
      · next htarget =>
        -- The turn is followed, which no turn is.
        rw [if_neg hdropped, hnext] at h
        simp only [htarget, if_true] at h
        have hturn := h _ (List.mem_cons_self ..)
        simp only [Turn.isFollowed, hnext, Option.any_some, htarget, Bool.and_true,
          Bool.not_eq_false'] at hturn
        exact absurd hturn hdropped
      · rfl

/-- **An order is carried out once** if its URL is received and no reply is followed. -/
theorem exchange_of_receives {net : Network} {o : Order} {replies : List Reply}
    (hreceives : net.receives o.url)
    (h : ∀ t ∈ (exchange net replies o.method o.url o.content).turns, t.isFollowed = false) :
    ∃ r, (exchange net replies o.method o.url o.content).turns = [⟨r, replies.headD .plain⟩] ∧
      some r.order = o.recorded? ∧ address? o.url = some r.url := by
  obtain ⟨r, named, hopen, hreaches, hmethod, hcontent, haddress⟩ :=
    open?_of_receives hreceives o.method o.content
  have hexchange : exchange net replies o.method o.url o.content =
      follow net named redirectAllowance replies r := by
    simp only [exchange, hopen]
  rw [hexchange] at h ⊢
  refine ⟨r, follow_of_not_followed hreaches h, ?_, haddress⟩
  rw [Order.recorded?, haddress, Option.map_some, Request.order, hmethod, hcontent]

/-! ### Exchanges with a service that is content -/

/-- The turns are **served**: something reached a service, and everything that did was answered
with 200. -/
def IsServed (turns : List Turn) : Prop :=
  turns ≠ [] ∧ ∀ t ∈ turns, t.reply.status = 200 ∧ t.reply.dropped = false

instance (turns : List Turn) : Decidable (IsServed turns) :=
  inferInstanceAs (Decidable (_ ∧ _))

/-- The status 200 leads nowhere. -/
theorem Turn.not_followed_of_status {t : Turn} (h : t.reply.status = 200) :
    t.isFollowed = false := by
  simp [Turn.isFollowed, Request.next?, redirected?, h]

/-- A first request is made for a URL that has a host and can be the target of a request. -/
theorem parse_of_open?_eq_ok {method : Method} {url : String} {content : Option Content}
    {r : Request} {named : Url} (h : open? method url content = .ok (r, named)) :
    ∃ u, Url.parse url = some u ∧ u.hasHost ∧ isTarget (addressed u) ∧
      r.url = (addressed u).withoutFragment := by
  cases hparse : Url.parse url with
  | none => simp [open?, hparse] at h
  | some u =>
    simp only [open?, hparse] at h
    split at h
    case isFalse => simp at h
    case isTrue hhost =>
      split at h
      case isFalse => simp at h
      case isTrue htarget =>
        obtain ⟨rfl, -⟩ := Prod.mk.inj (Except.ok.inj h)
        rw [extractUser_fst] at htarget ⊢
        exact ⟨u, rfl, hhost, htarget, rfl⟩

/-- An exchange has turns only if its first request reached a service. -/
theorem reaches_of_turns {net : Network} {named : Url} {n : Nat} {replies : List Reply}
    {r : Request} (h : (follow net named n replies r).turns ≠ []) : net.reaches r.url := by
  unfold follow at h
  split at h
  · assumption
  · exact absurd rfl h

/-- If something reached a service, then the URL of the order was received. -/
theorem receives_of_turns {net : Network} {o : Order} {replies : List Reply}
    (h : (exchange net replies o.method o.url o.content).turns ≠ []) : net.receives o.url := by
  unfold exchange at h
  split at h
  · next r named hopen =>
    obtain ⟨u, hparse, hhost, htarget, hurl⟩ := parse_of_open?_eq_ok hopen
    have hreaches := reaches_of_turns h
    rw [hurl] at hreaches
    simp [Network.receives, hparse, hhost, htarget, hreaches]
  · exact absurd rfl h

/-- **An order that is served** has been carried out once. -/
theorem exchange_of_isServed {net : Network} {o : Order} {replies : List Reply}
    (h : IsServed (exchange net replies o.method o.url o.content).turns) :
    ∃ r, (exchange net replies o.method o.url o.content).turns.map (·.request) = [r] ∧
      r.method = o.method ∧ r.content = o.content ∧ net.receives o.url ∧
      address? o.url = some r.url := by
  have hreceives := receives_of_turns h.1
  obtain ⟨r, hturns, horder, haddress⟩ :=
    exchange_of_receives hreceives fun t ht => Turn.not_followed_of_status (h.2 t ht).1
  rw [Order.recorded?, haddress] at horder
  have horder : r.order = _ := Option.some.inj horder
  exact ⟨r, by rw [hturns, List.map_singleton], congrArg Order.method horder,
    congrArg Order.content horder, hreceives, haddress⟩

end Http

end ProcTrace
