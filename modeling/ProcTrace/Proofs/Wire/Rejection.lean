import ProcTrace.Proofs.Json.Ink
import ProcTrace.Proofs.Wire.Acceptance
import ProcTrace.Wire.Rejection

/-!
# Where the reason of a rejection is taken from

The reason of a rejection is meant to be the member `error` of the service's own record, and for
bodies of any other shape the body itself, trimmed (`FromShape`). The main statement,
`fromShape_iff`, says for which bodies this is so, and what the reason is for the others. These are
of two kinds:

* a list of a single text is read as the record, too, for a record may stand as a list;
* an object with a key that is no text of characters, as a surrogate by itself, is not read as the
  record, even if its member `error` is what it should be.

In both of these cases the reason is another than meant, since no text in a body is the body itself,
trimmed.
-/

namespace ProcTrace

open Json

namespace Wire

variable {body e : String}

/-- The body as it stands, without blanks around it. -/
def trimmed (body : String) : String :=
  String.ofList (Text.trim body.toList)

/-- The body **is trimmed to** a text: there are blanks around the text in the body, and none at its
own two ends. -/
def IsTrimmedTo (body t : String) : Prop :=
  (∃ front back, (∀ c ∈ front, Text.isBlank c) ∧ (∀ c ∈ back, Text.isBlank c) ∧
      body.toList = front ++ t.toList ++ back) ∧
    (∀ c ∈ t.toList.head?, ¬ Text.isBlank c) ∧ ∀ c ∈ t.toList.getLast?, ¬ Text.isBlank c

private theorem isTrimmedTo_trimmed (body : String) : IsTrimmedTo body (trimmed body) := by
  simpa [IsTrimmedTo, trimmed] using Text.trim_spec body.toList

/-- The body is an object in which exactly one member is called `error`, and this is a text. -/
def SaysError (body e : String) : Prop :=
  ∃ ms, IsTextOf body.toList (.object ms) ∧ Occurs ms "error" (IsString · e)

/-- The body is a list of a single text. -/
def ListsError (body e : String) : Prop :=
  ∃ v, IsTextOf body.toList (.list [v]) ∧ IsString v e

/-- If the body is an object, then all its keys are texts of characters. -/
def IsNamed (body : String) : Prop :=
  ∀ ms, IsTextOf body.toList (.object ms) → HasNames ms

/-- The reason is taken **from the shape** of the service's own record, and from no other. -/
structure FromShape (body : String) : Prop where
  reason_eq : ∀ e, SaysError body e → rejectionReason body = e
  raw_eq : (∀ e, ¬ SaysError body e) → rejectionReason body = trimmed body
  raw_isTrimmed : (∀ e, ¬ SaysError body e) → IsTrimmedTo body (rejectionReason body)

theorem ListsError.not_saysError (h : ListsError body e) (e' : String) : ¬ SaysError body e' := by
  obtain ⟨v, hv, -⟩ := h
  rintro ⟨ms, hms, -⟩
  cases hv.unique hms

/-! ### No text in a body is the body -/

private theorem ne_trimmed_of_isWithin {v : Value} (h : v.IsWithin body.toList)
    (he : IsString v e) :
    e ≠ trimmed body := by
  rintro rfl
  rw [IsString, trimmed, String.toList_ofList] at he
  exact absurd (Text.ink_trim body.toList) (h.ink_lt he).ne

theorem ListsError.ne_trimmed (h : ListsError body e) : e ≠ trimmed body := by
  obtain ⟨v, hv, he⟩ := h
  exact ne_trimmed_of_isWithin (hv.isWithin_of_element (List.mem_singleton_self v)) he

theorem SaysError.ne_trimmed (h : SaysError body e) : e ≠ trimmed body := by
  obtain ⟨ms, hms, v, hv, he⟩ := h
  obtain ⟨m, hm, rfl⟩ := List.mem_map.1 (hv ▸ List.mem_singleton_self v)
  exact ne_trimmed_of_isWithin (hms.isWithin_of_member (List.mem_filter.1 hm).1) he

/-! ### What is read as the record -/

/-- As a list, the record is a list of a single text. -/
private theorem errorResponse_denotes_list_iff {vs : List Value} {x : ErrorResponse} :
    errorResponse.Denotes errorResponseSlots (.list vs) x ↔ ∃ v, vs = [v] ∧ IsString v x.error := by
  constructor
  · rintro ⟨d, hfills, hbuild⟩
    obtain ⟨e, rfl, ⟨⟩⟩ := need_bind_eq_ok_iff.1 hbuild
    cases hfills with
    | next ha hrest =>
      cases hrest with
      | done => exact ⟨_, rfl, ha⟩
  · rintro ⟨v, rfl, hv⟩
    exact ⟨some x.error, .next hv (.done _ (List.forall_mem_nil _)), rfl⟩

private theorem parse_errorResponse_eq_ok_iff {x : ErrorResponse} :
    parse errorResponse body = .ok x ↔
      SaysError body x.error ∧ IsNamed body ∨ ListsError body x.error := by
  rw [parse, errorResponse_describedBy.recognises.parse_eq_ok_iff]
  constructor
  · rintro ⟨v, hv, hx⟩
    cases v with
    | object ms =>
      obtain ⟨hnames, ⟨herror⟩⟩ := errorResponse_denotes_iff.1 hx
      refine .inl ⟨⟨ms, hv, herror⟩, fun ms' hms' => ?_⟩
      cases hv.unique hms'
      exact hnames
    | list vs =>
      obtain ⟨v, rfl, he⟩ := errorResponse_denotes_list_iff.1 hx
      exact .inr ⟨v, hv, he⟩
    | _ => cases hx
  · rintro (⟨⟨ms, hms, herror⟩, hnamed⟩ | ⟨v, hv, he⟩)
    · exact ⟨_, hms, errorResponse_denotes_iff.2 ⟨hnamed ms hms, ⟨herror⟩⟩⟩
    · exact ⟨_, hv, errorResponse_denotes_list_iff.2 ⟨v, rfl, he⟩⟩

private theorem rejectionReason_of_parse {x : ErrorResponse}
    (h : parse errorResponse body = .ok x) :
    rejectionReason body = x.error := by
  simp only [rejectionReason, h]

private theorem rejectionReason_of_not_parse (h : ∀ x, parse errorResponse body ≠ .ok x) :
    rejectionReason body = trimmed body := by
  unfold rejectionReason
  split
  · next x hx => exact absurd hx (h x)
  · rfl

theorem SaysError.rejectionReason_eq (h : SaysError body e) (hnamed : IsNamed body) :
    rejectionReason body = e :=
  rejectionReason_of_parse (x := ⟨e⟩) (parse_errorResponse_eq_ok_iff.2 (.inl ⟨h, hnamed⟩))

theorem ListsError.rejectionReason_eq (h : ListsError body e) : rejectionReason body = e :=
  rejectionReason_of_parse (x := ⟨e⟩) (parse_errorResponse_eq_ok_iff.2 (.inr h))

/-- A body that does not say the error in a way that is read is taken as it stands. -/
private theorem rejectionReason_eq_trimmed (herror : ∀ e, SaysError body e → ¬ IsNamed body)
    (hlists : ∀ e, ¬ ListsError body e) : rejectionReason body = trimmed body := by
  refine rejectionReason_of_not_parse fun x hx => ?_
  obtain ⟨h, hnamed⟩ | h := parse_errorResponse_eq_ok_iff.1 hx
  · exact herror _ h hnamed
  · exact hlists _ h

theorem SaysError.rejectionReason_eq_trimmed (h : SaysError body e) (hnamed : ¬ IsNamed body) :
    rejectionReason body = trimmed body :=
  Wire.rejectionReason_eq_trimmed (fun _ _ => hnamed) fun _ hlists => hlists.not_saysError e h

/-! ### The main statement -/

/-- **The reason is taken from the shape of the service's own record** and from no other, exactly if
the body is no list of a single text, and no object that says the error but has a key that is no
text of characters. Of such a list the reason is the text, of such an object the object itself. -/
theorem fromShape_iff (body : String) :
    (FromShape body ↔
        (∀ e, ¬ ListsError body e) ∧ ((∃ e, SaysError body e) → IsNamed body)) ∧
      (∀ e, ListsError body e → rejectionReason body = e) ∧
      ((∃ e, SaysError body e) → ¬ IsNamed body → rejectionReason body = trimmed body) := by
  refine ⟨⟨fun hshape => ⟨fun e h => ?_, fun ⟨e, h⟩ => ?_⟩, fun ⟨hlists, hnamed⟩ => ?_⟩,
    fun e h => h.rejectionReason_eq, fun ⟨e, h⟩ => h.rejectionReason_eq_trimmed⟩
  · have hraw : rejectionReason body = trimmed body := hshape.raw_eq h.not_saysError
    exact h.ne_trimmed (h.rejectionReason_eq.symm.trans hraw)
  · by_contra hnamed
    have hraw : rejectionReason body = trimmed body := h.rejectionReason_eq_trimmed hnamed
    exact h.ne_trimmed ((hshape.reason_eq e h).symm.trans hraw)
  · have hraw (hnone : ∀ e, ¬ SaysError body e) : rejectionReason body = trimmed body :=
      rejectionReason_eq_trimmed (fun e h => absurd h (hnone e)) hlists
    refine ⟨fun e h => h.rejectionReason_eq (hnamed ⟨e, h⟩), hraw, fun hnone => ?_⟩
    rw [hraw hnone]
    exact isTrimmedTo_trimmed body

/-- An object whose error starts with a space. -/
def paddedError : String :=
  " \x7b\"error\": \" x\"\x7d"

/-- The space in front of the error stays. -/
theorem fromShape_iff_padded :
    SaysError paddedError " x" ∧ rejectionReason paddedError = " x" := by
  have hkey : SpellsText "error\": \" x\"\x7d".toList ("error".toList.map .char)
      ": \" x\"\x7d".toList :=
    spellsText_plain "error".toList (by simp) _
  have hvalue : SpellsText " x\"\x7d".toList (" x".toList.map .char) "\x7d".toList :=
    spellsText_plain " x".toList (by simp) _
  have htext : IsTextOf paddedError.toList
      (.object [("error".toList.map .char, .text (" x".toList.map .char))]) :=
    ⟨[], .object rfl (.first (.quoted rfl hkey rfl) (.text rfl hvalue) (.close rfl)), rfl⟩
  have herror : SaysError paddedError " x" := ⟨_, htext, _, rfl, _, rfl, rfl⟩
  have hnamed : IsNamed paddedError := by
    intro ms hms
    cases htext.unique hms
    exact List.forall_mem_singleton.2 ⟨_, rfl⟩
  have hlists (e : String) (h : ListsError paddedError e) : False :=
    h.not_saysError _ herror
  exact ⟨herror, ((fromShape_iff paddedError).1.2 ⟨hlists, fun _ => hnamed⟩).reason_eq _ herror⟩

/-- A list of one text is no object with an error, but its reason is the text. -/
theorem not_fromShape_list : ¬ FromShape "[\"x\"]" := by
  have hx : SpellsText "x\"]".toList ("x".toList.map .char) "]".toList :=
    spellsText_plain "x".toList (by simp) _
  have hlists : ListsError "[\"x\"]" "x" :=
    ⟨_, ⟨[], .list rfl (.first (.text rfl hx) (.close rfl)), rfl⟩, _, rfl, rfl⟩
  intro hshape
  have hraw := hshape.raw_eq hlists.not_saysError
  exact hlists.ne_trimmed (hlists.rejectionReason_eq.symm.trans hraw)

end Wire

end ProcTrace
