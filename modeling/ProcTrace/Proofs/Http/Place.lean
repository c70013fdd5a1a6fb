import ProcTrace.Proofs.Http.Allowance
import ProcTrace.Proofs.Http.Final
import ProcTrace.Proofs.Url.Beneath

/-!
# Where requests go

A request goes to a **place**: a connection is made by some scheme to a host and a port, and the
rest of the URL has no part in whether it is accepted (`Network.GoesByPlace`). URLs that differ in
their paths only have the same place. So if a request can be made to one of them it can be made to
all, but for those that are too long (`receives_withPath`).
-/

namespace ProcTrace

namespace Url

/-- The **place** that a URL leads to: the scheme, the host and the port. -/
def place (u : Url) : List Char × Option Host × Option Nat :=
  (u.scheme, u.host?, u.effectivePort)

/-- Segments that are appended to the path are appended to the text of the URL, if it ends in its
path. -/
theorem write_withPath_append {u : Url} (hauthority : u.authority.isSome) (hquery : u.query = none)
    (hfragment : u.fragment = none) (ss ds : List (List Char)) :
    (u.withPath (ss ++ ds)).write = beneath (u.withPath ss).write ds := by
  obtain ⟨a, ha⟩ := Option.isSome_iff_exists.mp hauthority
  simp [write, withPath, writeAuthority, ha, hquery, hfragment, writePart, beneath, Path.write]

end Url

namespace Http

/-! ### The URL of a request -/

/-- The path of a URL has no part in what becomes of a user. -/
theorem addressed_withPath (u : Url) (ss : List (List Char)) :
    addressed (u.withPath ss) = (addressed u).withPath ss := by
  unfold addressed
  by_cases hreadable : u.authority.all isReadable
  · have hreadable' : (u.withPath ss).authority.all isReadable := hreadable
    rw [if_pos hreadable, if_pos hreadable']
    rfl
  · have hreadable' : ¬ (u.withPath ss).authority.all isReadable := hreadable
    rw [if_neg hreadable, if_neg hreadable']

/-- Without its user a URL leads to the same place. -/
theorem place_addressed (u : Url) : (addressed u).place = u.place := by
  obtain ⟨scheme, authority, path, query, fragment⟩ := u
  unfold addressed
  split
  · cases authority <;> rfl
  · rfl

/-- What is left of a URL without its user, if the URL has an authority and no query and no
fragment. -/
theorem addressed_bare {u : Url} (hauthority : u.authority.isSome) (hquery : u.query = none)
    (hfragment : u.fragment = none) :
    (addressed u).authority.isSome ∧ (addressed u).query = none ∧
      (addressed u).fragment = none := by
  unfold addressed
  split
  · exact ⟨by simpa [Url.withoutUser] using hauthority, hquery, hfragment⟩
  · exact ⟨hauthority, hquery, hfragment⟩

/-! ### The first request of an exchange -/

variable {net : Network}

/-- The first request of an exchange is the one that was ordered, if it is received. -/
theorem head?_exchange (net : Network) (replies : List Reply) (o : Order) :
    (exchange net replies o.method o.url o.content).turns.head?.map (·.request.url) =
      if net.receives o.url then address? o.url else none := by
  have hstarts := (isCourse_exchange net replies o.method o.url o.content).starts
  have hown := (exchange_madeOnce net replies o).own
  rcases hturns : (exchange net replies o.method o.url o.content).turns with _ | ⟨t, ts⟩
  · rw [if_neg fun h => hstarts.mpr h hturns]
    rfl
  · rw [hturns] at hown hstarts
    obtain ⟨-, -, haddress⟩ := hown t rfl
    rw [if_pos (hstarts.mp (List.cons_ne_nil t ts)), haddress]
    rfl

/-- An exchange in which nothing is sent is a failure. -/
theorem exists_error_of_turns_eq_nil {replies : List Reply} {method : Method} {url : String}
    {content : Option Content} (h : (exchange net replies method url content).turns = []) :
    ∃ f, (exchange net replies method url content).result = .error f := by
  have hfinal := exchange_resultsInFinal net replies method url content
  rw [Exchange.ResultsInFinal, h] at hfinal
  exact hfinal

/-! ### Places -/

/-- The network **goes by the place** that a URL leads to: whether a connection is accepted does not
depend on anything else in the URL. -/
def Network.GoesByPlace (net : Network) : Prop :=
  ∀ u v : Url, u.place = v.place → net.reaches u = net.reaches v

theorem service_goesByPlace : Network.service.GoesByPlace := by
  intro u v h
  obtain ⟨hscheme, hrest⟩ := Prod.mk.inj h
  obtain ⟨hhost, -⟩ := Prod.mk.inj hrest
  simp only [Network.service, hscheme, hhost]

/-- Requests to the place of a URL can be made, and are accepted there. -/
def Network.admits (net : Network) (u : Url) : Bool :=
  u.hasHost && isWeb u && u.authority.all (·.host.write.all isTargetChar) && net.reaches u

/-- **URLs with different paths** are received alike, unless they are too long. -/
theorem receives_withPath (hnet : net.GoesByPlace) {url : String} {u : Url} {ss : List (List Char)}
    (hparse : Url.parse url = some (u.withPath ss)) :
    net.receives url =
      (net.admits u && ((addressed u).withPath ss).write.length ≤ targetLengthMax) := by
  have hhost : (u.withPath ss).hasHost = u.hasHost := rfl
  have hweb : isWeb ((addressed u).withPath ss) = isWeb u := by
    have hscheme := (addressed_parts u).1
    simp only [isWeb, Url.withPath, hscheme]
  have hchars : ((addressed u).withPath ss).authority.all (·.host.write.all isTargetChar) =
      u.authority.all (·.host.write.all isTargetChar) := by
    unfold addressed
    split
    · simp only [Url.withPath, Url.withoutUser, Option.all_map]
    · rfl
  have hreaches : net.reaches ((addressed u).withPath ss).withoutFragment = net.reaches u :=
    hnet _ _ (place_addressed u)
  simp only [Network.receives, Network.admits, hparse, Option.any_some, addressed_withPath, hhost,
    isTarget, hweb, hchars, hreaches]
  ac_rfl

end Http

end ProcTrace
