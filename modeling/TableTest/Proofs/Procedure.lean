/-
`TableTest.Proofs.Procedure` — how a procedure on a session comes apart

A procedure made of others succeeds when each of them does, and fails where the first of them
fails.  It is whole if a failure leaves the session as it was, tame if it fails with nothing but
failures of the page under test, and it overlooks the cookies if it comes to the same with others.
It is tame or overlooks the cookies if all its parts do.  It need not be whole if all its parts
are: what changes the session and may still fail then is not.  An orderly procedure is all three,
and is made up of reading first and a change that cannot fail at the end.
-/
import TableTest.Proofs.Failure
import TableTest.Session.Procedure

namespace TableTest.Session

/-- The session with other cookies. -/
def withCookies (cookies : Dictionary String) (s : Session) : Session :=
  { s with cookies }

namespace Procedure

variable {α β : Type} {p : Procedure α} {next : α → Procedure β} {s s' : Session}

/-! ## One after the other -/

theorem bind_of_ok {a : α} {t : Session} (h : p s = (.ok a, t)) : (p >>= next) s = next a t := by
  show p.andThen next s = _
  rw [andThen, h]

theorem bind_of_error {e : Failure} {t : Session} (h : p s = (.error e, t)) :
    (p >>= next) s = (.error e, t) := by
  show p.andThen next s = _
  rw [andThen, h]

theorem bind_ok_iff {b : β} :
    (p >>= next) s = (.ok b, s') ↔ ∃ a t, p s = (.ok a, t) ∧ next a t = (.ok b, s') := by
  rcases hp : p s with ⟨e | a, t⟩
  · rw [bind_of_error hp]
    constructor
    · intro h
      cases h
    · rintro ⟨a, t, h, -⟩
      cases h
  · rw [bind_of_ok hp]
    constructor
    · intro h
      exact ⟨a, t, rfl, h⟩
    · rintro ⟨a', t', h, hnext⟩
      cases h
      exact hnext

theorem bind_error_iff {e : Failure} :
    (p >>= next) s = (.error e, s') ↔
      p s = (.error e, s') ∨ ∃ a t, p s = (.ok a, t) ∧ next a t = (.error e, s') := by
  rcases hp : p s with ⟨e | a, t⟩
  · rw [bind_of_error hp]
    constructor
    · intro h
      cases h
      exact Or.inl rfl
    · rintro (h | ⟨a, t, h, -⟩)
      · cases h
        rfl
      · cases h
  · rw [bind_of_ok hp]
    constructor
    · intro h
      exact Or.inr ⟨a, t, rfl, h⟩
    · rintro (h | ⟨a', t', h, hnext⟩)
      · cases h
      · cases h
        exact hnext

theorem bind_pure_error_iff {b : β} {e : Failure} :
    (p >>= fun _ => pure b) s = (.error e, s') ↔ p s = (.error e, s') := by
  rw [bind_error_iff]
  constructor
  · rintro (h | ⟨_, _, _, hpure⟩)
    · exact h
    · cases hpure
  · exact Or.inl

/-- Handing something back at the end changes nothing more. -/
theorem bind_pure_state {b : β} : ((p >>= fun _ => pure b) s).2 = (p s).2 := by
  rcases h : p s with ⟨e | a, t⟩
  · rw [bind_of_error h]
  · rw [bind_of_ok h]
    rfl

theorem reading_ok_iff {f : Session → Except Failure α} {a : α} :
    reading f s = (.ok a, s') ↔ f s = .ok a ∧ s' = s := by
  simp [reading, eq_comm]

theorem change_ok_iff {f : Session → Session} {u : Unit} :
    change f s = (.ok u, s') ↔ s' = f s := by
  simp [change, eq_comm]

/-- Reading and going on: the session is the same when it goes on. -/
theorem bind_reading_ok_iff {f : Session → Except Failure α} {b : β} :
    (reading f >>= next) s = (.ok b, s') ↔ ∃ a, f s = .ok a ∧ next a s = (.ok b, s') := by
  rw [bind_ok_iff]
  constructor
  · rintro ⟨a, t, h, hnext⟩
    obtain ⟨ha, rfl⟩ := reading_ok_iff.mp h
    exact ⟨a, ha, hnext⟩
  · rintro ⟨a, ha, hnext⟩
    exact ⟨a, s, reading_ok_iff.mpr ⟨ha, rfl⟩, hnext⟩

theorem mapError_ok_iff {tell : Failure → Failure} {a : α} :
    p.mapError tell s = (.ok a, s') ↔ p s = (.ok a, s') := by
  rw [mapError, Prod.mk.injEq, Except.mapError_ok_iff, ← Prod.mk.injEq]

theorem mapError_error_iff {tell : Failure → Failure} {e : Failure} :
    p.mapError tell s = (.error e, s') ↔ ∃ e', p s = (.error e', s') ∧ tell e' = e := by
  rw [mapError, Prod.mk.injEq, Except.mapError_error_iff]
  constructor
  · rintro ⟨⟨e', he, ht⟩, rfl⟩
    exact ⟨e', Prod.ext he rfl, ht⟩
  · rintro ⟨e', he, ht⟩
    rw [he]
    exact ⟨⟨e', rfl, ht⟩, rfl⟩

/-! ## Failing without a trace -/

/-- A failure leaves the session as it was. -/
def Whole (p : Procedure α) : Prop := ∀ s e s', p s = (.error e, s') → s' = s

theorem whole_reading (f : Session → Except Failure α) : (reading f).Whole := by
  intro s e s' h
  exact (congrArg Prod.snd h).symm

theorem whole_refuse (command reason : String) : (refuse command reason : Procedure α).Whole :=
  whole_reading _

theorem whole_pure (a : α) : (pure a : Procedure α).Whole := whole_reading _

theorem whole_change (f : Session → Session) : (change f).Whole := by
  intro s e s' h
  cases h

theorem whole_bind_reading {f : Session → Except Failure α} (hnext : ∀ a, (next a).Whole) :
    (reading f >>= next).Whole := by
  intro s e s' h
  rcases bind_error_iff.mp h with h | ⟨a, t, h, hfails⟩
  · exact whole_reading f s e s' h
  · obtain ⟨-, rfl⟩ := reading_ok_iff.mp h
    exact hnext a _ e s' hfails

theorem Whole.bind_pure (h : p.Whole) (b : β) : (p >>= fun _ => pure b).Whole := by
  intro s e s' hfails
  exact h s e s' (bind_pure_error_iff.mp hfails)

theorem Whole.mapError (h : p.Whole) (tell : Failure → Failure) : (p.mapError tell).Whole := by
  intro s e s' hfails
  obtain ⟨e', he, -⟩ := mapError_error_iff.mp hfails
  exact h s e' s' he

/-! ## Failing as the page does -/

/-- Whenever it fails, it is with a failure of the page under test. -/
def Tame (p : Procedure α) : Prop := ∀ s, isFatal (p s).1 = false

theorem tame_reading {f : Session → Except Failure α} (hf : ∀ s, isFatal (f s) = false) :
    (reading f).Tame := hf

theorem tame_refuse (command reason : String) : (refuse command reason : Procedure α).Tame := by
  intro s
  rfl

theorem tame_pure (a : α) : (pure a : Procedure α).Tame := by
  intro s
  rfl

theorem tame_change (f : Session → Session) : (change f).Tame := by
  intro s
  rfl

theorem Tame.bind (hp : p.Tame) (hnext : ∀ a, (next a).Tame) : (p >>= next).Tame := by
  intro s
  have hs := hp s
  rcases h : p s with ⟨e | a, t⟩
  · rw [bind_of_error h]
    rw [h] at hs
    exact hs
  · rw [bind_of_ok h]
    exact hnext a t

/-- Whatever fails inside, it is told as a failure of the page. -/
theorem tame_mapError {tell : Failure → Failure} (htell : ∀ e, (tell e).isDomain = true) :
    (p.mapError tell).Tame := by
  intro s
  show isFatal ((p s).1.mapError tell) = false
  cases (p s).1 with
  | error e => simp [isFatal, htell e]
  | ok a => rfl

/-! ## Not looking at the cookies -/

/-- With other cookies it comes to the same, and leaves them. -/
def Overlooks (cookies : Dictionary String) (p : Procedure α) : Prop :=
  ∀ s, p (s.withCookies cookies) = ((p s).1, (p s).2.withCookies cookies)

variable {cookies : Dictionary String}

theorem overlooks_reading {f : Session → Except Failure α}
    (hf : ∀ s, f (s.withCookies cookies) = f s) : (reading f).Overlooks cookies := by
  intro s
  rw [reading, hf]
  rfl

theorem overlooks_refuse (command reason : String) :
    (refuse command reason : Procedure α).Overlooks cookies := by
  intro s
  rfl

theorem overlooks_pure (a : α) : (pure a : Procedure α).Overlooks cookies := by
  intro s
  rfl

theorem overlooks_change {f : Session → Session}
    (hf : ∀ s, f (s.withCookies cookies) = (f s).withCookies cookies) :
    (change f).Overlooks cookies := by
  intro s
  rw [change, hf]
  rfl

theorem Overlooks.bind (hp : p.Overlooks cookies) (hnext : ∀ a, (next a).Overlooks cookies) :
    (p >>= next).Overlooks cookies := by
  intro s
  have hs := hp s
  rcases h : p s with ⟨e | a, t⟩ <;> rw [h] at hs
  · rw [bind_of_error h, bind_of_error hs]
  · rw [bind_of_ok h, bind_of_ok hs]
    exact hnext a t

theorem Overlooks.mapError (hp : p.Overlooks cookies) (tell : Failure → Failure) :
    (p.mapError tell).Overlooks cookies := by
  intro s
  rw [Procedure.mapError, hp]
  rfl

/-! ## Looking first and changing last -/

/-- What a procedure is like that looks at the session, fails if something stands in its way, and
changes the session at the end. -/
structure Orderly (p : Procedure α) : Prop where
  whole : p.Whole
  tame : p.Tame
  blind : ∀ cookies, p.Overlooks cookies

theorem orderly_reading {f : Session → Except Failure α} (htame : ∀ s, isFatal (f s) = false)
    (hblind : ∀ cookies s, f (s.withCookies cookies) = f s) : (reading f).Orderly :=
  ⟨whole_reading f, tame_reading htame, fun cookies => overlooks_reading (hblind cookies)⟩

theorem orderly_refuse (command reason : String) : (refuse command reason : Procedure α).Orderly :=
  ⟨whole_refuse command reason, tame_refuse command reason, fun _ => overlooks_refuse _ _⟩

theorem orderly_pure (a : α) : (pure a : Procedure α).Orderly :=
  ⟨whole_pure a, tame_pure a, fun _ => overlooks_pure a⟩

theorem orderly_change {f : Session → Session}
    (hblind : ∀ cookies s, f (s.withCookies cookies) = (f s).withCookies cookies) :
    (change f).Orderly :=
  ⟨whole_change f, tame_change f, fun cookies => overlooks_change (hblind cookies)⟩

theorem orderly_bind_reading {f : Session → Except Failure α}
    (htame : ∀ s, isFatal (f s) = false)
    (hblind : ∀ cookies s, f (s.withCookies cookies) = f s) (hnext : ∀ a, (next a).Orderly) :
    (reading f >>= next).Orderly where
  whole := whole_bind_reading fun a => (hnext a).whole
  tame := (tame_reading htame).bind fun a => (hnext a).tame
  blind cookies := (overlooks_reading (hblind cookies)).bind fun a => (hnext a).blind cookies

theorem Orderly.ite {c : Prop} [Decidable c] {q : Procedure α} (hp : p.Orderly) (hq : q.Orderly) :
    (if c then p else q).Orderly := by
  split
  · exact hp
  · exact hq

end Procedure

end TableTest.Session
