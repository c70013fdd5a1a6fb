import ProcTrace.Text.Reader

/-!
# What a reader can find

A reader **yields** values with a property if all values have it that it ever finds, in whichever
text. Nothing is said about texts in which it finds none. For every way of making a reader from
others there is one rule here, so that what a large reader yields follows from the shape in which it
is written.
-/

namespace ProcTrace.Text.Reader

variable {α β : Type} {p : Reader α} {P : α → Prop} {Q : β → Prop}

/-- All that the reader **yields** has the property. -/
def Yields (p : Reader α) (P : α → Prop) : Prop :=
  ∀ s a r, p s = .found a r → P a

namespace Yields

/-- Nothing has to be known of what a reader yields. -/
theorem any (p : Reader α) : p.Yields fun _ => True :=
  fun _ _ _ _ => trivial

theorem pure {a : α} (h : P a) : (Pure.pure a : Reader α).Yields P := by
  rintro s _ _ ⟨⟩
  exact h

theorem fail : (Reader.fail : Reader α).Yields P := by
  rintro s a r ⟨⟩

/-- One reader after another: the second may rely on what the first one yields. -/
theorem bind {f : α → Reader β} (h : p.Yields P) (hf : ∀ a, P a → (f a).Yields Q) :
    (p >>= f).Yields Q := by
  intro s b r hfound
  cases hp : p s with
  | found a r' =>
    have hfound' : f a r' = .found b r := by
      simpa only [Bind.bind, hp] using hfound
    exact hf a (h s a r' hp) r' b r hfound'
  | absent u => simp only [Bind.bind, hp, reduceCtorEq] at hfound
  | broken u => simp only [Bind.bind, hp, reduceCtorEq] at hfound

/-- One reader after another that does not matter. -/
theorem after {f : α → Reader β} (hf : ∀ a, (f a).Yields Q) : (p >>= f).Yields Q :=
  bind (any p) fun a _ => hf a

theorem orElse {q : Reader α} (hp : p.Yields P) (hq : q.Yields P) : (p <|> q).Yields P := by
  intro s a r hfound
  cases h : p s with
  | found b r' =>
    have : p s = .found a r := by
      simpa only [HOrElse.hOrElse, OrElse.orElse, Reader.orElse, h] using hfound
    exact hp s a r this
  | absent u =>
    have : q s = .found a r := by
      simpa only [HOrElse.hOrElse, OrElse.orElse, Reader.orElse, h] using hfound
    exact hq s a r this
  | broken u =>
    simp only [HOrElse.hOrElse, OrElse.orElse, Reader.orElse, h, reduceCtorEq] at hfound

theorem must (h : p.Yields P) : (Reader.must p).Yields P := by
  intro s a r hfound
  unfold Reader.must at hfound
  split at hfound
  · cases hfound
  · exact h s a r hfound

theorem optional (h : p.Yields P) : (Reader.optional p).Yields fun a => ∀ b ∈ a, P b := by
  intro s a r hfound
  unfold Reader.optional at hfound
  split at hfound
  · next hp =>
    cases hfound
    rintro _ ⟨⟩
    exact h _ _ _ hp
  · cases hfound
    rintro _ ⟨⟩
  · cases hfound

/-- What is made of something that a reader yields. -/
theorem filterMap {f : α → Option β} (h : p.Yields P) (hf : ∀ a b, P a → f a = some b → Q b) :
    (Reader.filterMap f p).Yields Q := by
  intro s b r hfound
  unfold Reader.filterMap at hfound
  split at hfound
  · next a r' hp =>
    split at hfound
    · next b' hb =>
      cases hfound
      exact hf a b (h _ _ _ hp) hb
    · cases hfound
  · cases hfound
  · cases hfound

theorem manyUpTo (h : p.Yields P) (n : Nat) :
    (Reader.manyUpTo p n).Yields fun as => ∀ a ∈ as, P a := by
  induction n with
  | zero => exact pure fun _ => List.not_mem_nil.elim
  | succ n ih =>
    intro s as r hfound
    unfold Reader.manyUpTo at hfound
    split at hfound
    · next a r' hp =>
      have hrest : (do Pure.pure (a :: (← Reader.manyUpTo p n)) : Reader (List α)).Yields
          fun as => ∀ a ∈ as, P a :=
        bind ih fun as has => pure (List.forall_mem_cons.2 ⟨h _ _ _ hp, has⟩)
      exact hrest _ _ _ hfound
    · cases hfound
      exact fun _ => List.not_mem_nil.elim
    · cases hfound

/-- All of several things in a row. -/
theorem many (h : p.Yields P) : (Reader.many p).Yields fun as => ∀ a ∈ as, P a :=
  fun s => manyUpTo h s.length s

theorem separated1 {q : Reader β} (h : p.Yields P) :
    (Reader.separated1 p q).Yields fun as => ∀ a ∈ as, P a := by
  refine bind h fun a ha => bind (many (after fun _ => h)) fun as has => pure ?_
  exact List.forall_mem_cons.2 ⟨ha, has⟩

theorem separated {q : Reader β} (h : p.Yields P) :
    (Reader.separated p q).Yields fun as => ∀ a ∈ as, P a :=
  orElse (separated1 h) (pure fun _ => List.not_mem_nil.elim)

end Yields

end ProcTrace.Text.Reader
