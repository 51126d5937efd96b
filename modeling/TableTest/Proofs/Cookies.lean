/-
`TableTest.Proofs.Cookies` — the cookies of a session are what was last written

What a session says about its cookies is settled by the calls that were made on it: of those that
affect the cookie of a name the last one counts.  All other calls can be left out without a
difference to the cookies, and those that set cookies without a difference to anything else.
-/
import Mathlib.Data.List.Induction
import TableTest.Proofs.Affix
import TableTest.Proofs.ByteOrder
import TableTest.Proofs.CookieBlindness

namespace TableTest

namespace Call

/-- `Writes call name w`: the call sets the cookie of that name to the value `w`, or removes it if
`w` is none. -/
inductive Writes : Call → String → Option String → Prop
  | create {name value : String} (rest : String) : '=' ∉ name.toList →
      Writes (.invoke "createCookie" [name ++ "=" ++ value, rest]) (Text.trim name)
        (some (Text.trim value))
  | delete (name rest : String) : Writes (.invoke "deleteCookie" [name, rest]) name none
  | clear (name : String) : Writes (.invoke "deleteAllVisibleCookies" []) name none

theorem Writes.created {call : Call} {name value : String} (h : Writes call name (some value)) :
    ∃ key text rest, call = .invoke "createCookie" [key ++ "=" ++ text, rest] ∧
      '=' ∉ key.toList := by
  generalize hw : some value = w at h
  cases h with
  | create rest hkey => exact ⟨_, _, rest, rfl, hkey⟩
  | delete | clear => cases hw

/-- Of the calls that write the cookie of a name, the last one sets it to a value. -/
def LastWritten (calls : List Call) (name value : String) : Prop :=
  ∃ before call later, calls = before ++ call :: later ∧ Writes call name (some value) ∧
    ∀ c ∈ later, ∀ w, ¬ Writes c name w

theorem lastWritten_append {calls : List Call} {call : Call} {name value : String} :
    LastWritten (calls ++ [call]) name value ↔
      Writes call name (some value) ∨
        (∀ w, ¬ Writes call name w) ∧ LastWritten calls name value := by
  constructor
  · rintro ⟨before, last, later, hcalls, hlast, hlater⟩
    rcases List.eq_nil_or_concat later with rfl | ⟨later, c, rfl⟩
    · obtain ⟨-, hsame⟩ := List.append_inj' hcalls rfl
      obtain rfl := List.singleton_inj.mp hsame
      exact Or.inl hlast
    · have hsplit : calls ++ [call] = (before ++ last :: later) ++ [c] := by simpa using hcalls
      obtain ⟨rfl, hsame⟩ := List.append_inj' hsplit rfl
      obtain rfl := List.singleton_inj.mp hsame
      refine Or.inr ⟨hlater _ (by simp), before, last, later, rfl, hlast, ?_⟩
      intro c hc
      exact hlater c (by simp [hc])
  · rintro (hcall | ⟨hno, before, last, later, rfl, hlast, hlater⟩)
    · exact ⟨calls, call, [], rfl, hcall, fun _ hc => absurd hc List.not_mem_nil⟩
    · refine ⟨before, last, later ++ [call], by simp, hlast, ?_⟩
      intro c hc
      rcases List.mem_append.mp hc with hc | hc
      · exact hlater c hc
      · obtain rfl := List.mem_singleton.mp hc
        exact hno

end Call

namespace Session

open Call

variable (site : Site) (s : Session)

/-! ## What a call writes -/

theorem split_pair {pair name value : String} :
    Text.splitFirst? '=' pair = some (name, value) ↔
      pair = name ++ "=" ++ value ∧ '=' ∉ name.toList := Text.splitFirst?_eq_some_iff

theorem ofCall?_setter {method : String} {args : List String} {a : Action}
    (h : Command.ofCall? method args = some (.action a)) (ha : a.setsCookies = true) :
    (∃ pair rest, method = "createCookie" ∧ args = [pair, rest] ∧ a = .createCookie pair) ∨
      (∃ name rest, method = "deleteCookie" ∧ args = [name, rest] ∧ a = .deleteCookie name) ∨
      method = "deleteAllVisibleCookies" ∧ args = [] ∧ a = .clearCookies := by
  match args with
  | [] =>
      change Command.nullary? method = _ at h
      unfold Command.nullary? at h
      split at h <;> cases h <;> first
        | exact Or.inr (Or.inr ⟨rfl, rfl, rfl⟩)
        | cases ha
  | [arg] =>
      change Command.unary? method arg = _ at h
      unfold Command.unary? at h
      split at h <;> cases h <;> cases ha
  | [first, second] =>
      change Command.binary? method first second = _ at h
      unfold Command.binary? at h
      split at h <;> cases h <;> first
        | exact Or.inl ⟨_, _, rfl, rfl, rfl⟩
        | exact Or.inr (Or.inl ⟨_, _, rfl, rfl, rfl⟩)
        | cases ha
  | _ :: _ :: _ :: _ => cases h

section

variable {call : Call} {cookies : Dictionary String} {name : String}

/-- A call that writes a cookie leaves it as written. -/
theorem get?_of_writes {w : Option String} (hw : Writes call name w) :
    (cookiesAfter call cookies).get? name = w := by
  cases hw with
  | @create key value rest hno =>
      have hsplit : Text.splitFirst? '=' (key ++ "=" ++ value) = some (key, value) :=
        split_pair.mpr ⟨rfl, hno⟩
      show ((Action.createCookie (key ++ "=" ++ value)).edit cookies).get? _ = _
      simp only [Action.edit, hsplit, Dictionary.get?_insert, if_true]
  | delete _ rest =>
      show (cookies.erase name).get? name = none
      rw [Dictionary.get?_erase, if_pos rfl]
  | clear => rfl

/-- Any other call leaves it as it was. -/
theorem get?_of_not_writes (hno : ∀ w, ¬ Writes call name w) :
    (cookiesAfter call cookies).get? name = cookies.get? name := by
  cases hsets : call.setsCookies with
  | false => rw [cookiesAfter_of_other hsets]
  | true =>
    cases call with
    | navigate url | await timeout => cases hsets
    | invoke method args =>
      rw [cookiesAfter_invoke]
      rcases hc : Command.ofCall? method args with _ | ⟨q⟩ | ⟨a⟩
      · rfl
      · rfl
      have ha : a.setsCookies = true := (cookies_of_ofCall? hc).1.symm.trans hsets
      rcases ofCall?_setter hc ha with
        ⟨pair, rest, rfl, rfl, rfl⟩ | ⟨key, rest, rfl, rfl, rfl⟩ | ⟨rfl, rfl, rfl⟩
      · rcases hp : Text.splitFirst? '=' pair with _ | ⟨key, value⟩
        · simp only [Action.edit, hp]
        · obtain ⟨rfl, hkey⟩ := split_pair.mp hp
          have hne : name ≠ Text.trim key := by
            rintro rfl
            exact hno _ (.create rest hkey)
          simp only [Action.edit, hp, Dictionary.get?_insert, if_neg hne]
      · have hne : name ≠ key := by
          rintro rfl
          exact hno _ (.delete name rest)
        simp only [Action.edit, Dictionary.get?_erase, if_neg hne]
      · exact absurd (.clear name) (hno none)

theorem ascending_cookiesAfter (h : cookies.Ascending) : (cookiesAfter call cookies).Ascending := by
  cases call with
  | navigate url | await timeout => exact h
  | invoke method args =>
      rw [cookiesAfter_invoke]
      split
      · next a _ =>
        cases a with
        | clearCookies => exact Dictionary.ascending_empty
        | deleteCookie key => exact h.erase key
        | createCookie pair =>
            rcases hp : Text.splitFirst? '=' pair with _ | ⟨key, value⟩
            · simpa only [Action.edit, hp] using h
            · simpa only [Action.edit, hp] using h.insert _ _
        | _ => exact h
      · exact h

end

/-! ## What a session has in the end -/

theorem reached_append (calls : List Call) (call : Call) :
    reached site (calls ++ [call]) = (reached site calls).after site call := by
  rw [reached, List.foldl_append]
  rfl

theorem get?_reached {name value : String} (calls : List Call) :
    (reached site calls).cookies.get? name = some value ↔ LastWritten calls name value := by
  induction calls using List.reverseRecOn with
  | nil =>
      constructor
      · intro h
        cases h
      · rintro ⟨before, call, later, h, -⟩
        simp at h
  | append_singleton calls call ih =>
      rw [reached_append, cookies_after, lastWritten_append]
      by_cases hw : ∃ w, Writes call name w
      · obtain ⟨w, hw⟩ := hw
        rw [get?_of_writes hw]
        constructor
        · rintro rfl
          exact Or.inl hw
        · rintro (hvalue | ⟨hno, -⟩)
          · have hsame := @get?_of_writes call {} name w hw
            rw [← hsame, get?_of_writes hvalue]
          · exact absurd hw (hno w)
      · have hno := not_exists.mp hw
        rw [get?_of_not_writes hno, ih]
        exact ⟨fun h => Or.inr ⟨hno, h⟩, fun h => h.elim (absurd · (hno _)) (·.2)⟩

theorem ascending_reached (calls : List Call) : (reached site calls).cookies.Ascending := by
  induction calls using List.reverseRecOn with
  | nil => exact Dictionary.ascending_empty
  | append_singleton calls call ih =>
      rw [reached_append, cookies_after]
      exact ascending_cookiesAfter ih

/-! ## Leaving calls out -/

/-- What calls come to that are made one after the other, whether they succeed or not. -/
def replies (site : Site) : List Call → Session → List (Call × Except Failure Value)
  | [], _ => []
  | call :: calls, s => (call, s.reply site call) :: replies site calls (s.after site call)

variable {cookies : Dictionary String}

/-- Without the calls that set cookies a session gets into the same state but for its cookies. -/
theorem foldl_others (calls : List Call) (s : Session) :
    (calls.filter (!·.setsCookies)).foldl (after site) (s.withCookies cookies) =
      (calls.foldl (after site) s).withCookies cookies := by
  induction calls generalizing s with
  | nil => rfl
  | cons call calls ih =>
      cases hsets : call.setsCookies with
      | true =>
          rw [List.filter_cons_of_neg (by simp [hsets]), List.foldl_cons,
            after_setter site s hsets]
          exact ih (s.withCookies (cookiesAfter call s.cookies))
      | false =>
          rw [List.filter_cons_of_pos (by simp [hsets]), List.foldl_cons, List.foldl_cons,
            after_withCookies site s hsets]
          exact ih (s.after site call)

theorem replies_others (calls : List Call) (s : Session) :
    (replies site (calls.filter (!·.setsCookies)) (s.withCookies cookies)).filter
        (!·.1.asksCookies) =
      (replies site calls s).filter fun r => !r.1.setsCookies && !r.1.asksCookies := by
  induction calls generalizing s with
  | nil => rfl
  | cons call calls ih =>
      cases hsets : call.setsCookies with
      | true =>
          rw [List.filter_cons_of_neg (by simp [hsets]), replies,
            List.filter_cons_of_neg (by simp [hsets]), after_setter site s hsets]
          exact ih (s.withCookies (cookiesAfter call s.cookies))
      | false =>
          rw [List.filter_cons_of_pos (by simp [hsets]), replies, replies,
            after_withCookies site s hsets]
          cases hasks : call.asksCookies with
          | true =>
              rw [List.filter_cons_of_neg (by simp [hasks]),
                List.filter_cons_of_neg (by simp [hasks])]
              exact ih (s.after site call)
          | false =>
              rw [List.filter_cons_of_pos (by simp [hasks]),
                List.filter_cons_of_pos (by simp [hsets, hasks]), ih,
                reply_withCookies site s hsets hasks]

/-- The calls that set cookies alone make the same cookies. -/
theorem cookies_of_setters (calls : List Call) (s t : Session) (h : s.cookies = t.cookies) :
    ((calls.filter (·.setsCookies)).foldl (after site) s).cookies =
      (calls.foldl (after site) t).cookies := by
  induction calls generalizing s t with
  | nil => exact h
  | cons call calls ih =>
      rw [List.foldl_cons]
      cases hsets : call.setsCookies with
      | true =>
          rw [List.filter_cons_of_pos hsets, List.foldl_cons]
          refine ih _ _ ?_
          rw [cookies_after, cookies_after, h]
      | false =>
          rw [List.filter_cons_of_neg (by simp [hsets])]
          refine ih _ _ ?_
          rw [cookies_after, cookiesAfter_of_other hsets, h]

/-! ## What a session says about its cookies -/

/-- What a new session says about its cookies when calls have been made on it. -/
structure CookieAnswers (site : Site) (calls : List Call) : Prop where
  /-- A cookie has the value that was last written. -/
  valued : ∀ name value,
    (reached site calls).reply site (.invoke "getCookieByName" [name]) = .ok (.text value) ↔
      LastWritten calls name value
  /-- If no value was, there is none. -/
  void : ∀ name, (∀ value, ¬ LastWritten calls name value) →
    (reached site calls).reply site (.invoke "getCookieByName" [name]) = .ok .void
  present : ∀ name, ∃ there,
    (reached site calls).reply site (.invoke "isCookiePresent" [name]) = .ok (.flag there) ∧
      (there = true ↔ ∃ value, LastWritten calls name value)
  /-- All cookies are listed, each once, in the order of the bytes of their names. -/
  listed : ∃ entries : List (String × String),
    (reached site calls).reply site (.invoke "getCookie" []) =
      .ok (.text ("; ".intercalate (entries.map fun (name, value) => name ++ "=" ++ value))) ∧
    entries.Pairwise (Text.bytes ·.1 < Text.bytes ·.1) ∧
    ∀ name value, (name, value) ∈ entries ↔ LastWritten calls name value

/-- The calls that set cookies and the others, made without each other. -/
structure CookiesApart (site : Site) (calls : List Call) : Prop where
  /-- Without the calls that set cookies, all but those that ask for cookies come to the same. -/
  others : (replies site (calls.filter (!·.setsCookies)) {}).filter (!·.1.asksCookies) =
    (replies site calls {}).filter fun r => !r.1.setsCookies && !r.1.asksCookies
  location : (reached site (calls.filter (!·.setsCookies))).location = (reached site calls).location
  history : (reached site (calls.filter (!·.setsCookies))).history = (reached site calls).history
  elements : (reached site (calls.filter (!·.setsCookies))).elements = (reached site calls).elements
  /-- Alone, the calls that set cookies make the same cookies. -/
  cookies : (reached site (calls.filter (·.setsCookies))).cookies = (reached site calls).cookies

theorem cookieAnswers (calls : List Call) : CookieAnswers site calls := by
  have hget (name value : String) :
      (reached site calls).cookies.get? name = some value ↔ LastWritten calls name value :=
    get?_reached site calls
  have hnamed (name : String) :
      (reached site calls).reply site (.invoke "getCookieByName" [name]) =
        .ok (((reached site calls).cookies.get? name).elim .void .text) := rfl
  have hascending := ascending_reached site calls
  constructor
  · intro name value
    rw [← hget, hnamed]
    cases (reached site calls).cookies.get? name <;> simp
  · intro name hno
    cases hv : (reached site calls).cookies.get? name with
    | none => rw [hnamed, hv, Option.elim_none]
    | some value => exact absurd ((hget name value).mp hv) (hno value)
  · intro name
    refine ⟨(reached site calls).cookies.contains name, rfl, ?_⟩
    rw [Dictionary.contains, Option.isSome_iff_exists]
    exact exists_congr (hget name)
  · refine ⟨(reached site calls).cookies.entries, rfl, ?_, ?_⟩
    · exact (List.pairwise_map.mp hascending).imp Text.bytes_lt_iff.mpr
    · intro name value
      rw [← hascending.get?_eq_some_iff, hget]

theorem cookiesApart (calls : List Call) : CookiesApart site calls := by
  have hothers : reached site (calls.filter (!·.setsCookies)) =
      (reached site calls).withCookies {} := foldl_others site calls {}
  exact
    { others := replies_others site calls {}
      location := by rw [hothers]; rfl
      history := by rw [hothers]; rfl
      elements := by rw [hothers]; rfl
      cookies := cookies_of_setters site calls {} {} rfl }

/-- The cookies of a session are a map of its own.  The cookie of a name is what the last call that
affects it has written, a call to create one counting exactly if it succeeds; whatever asks for
cookies goes by that, and all of them are listed in order.  The calls that set cookies and the rest
do not depend on each other. -/
theorem cookies_last_written (calls : List Call) :
    CookieAnswers site calls ∧ CookiesApart site calls ∧
      ∀ (s : Session) (pair rest : String),
        s.reply site (.invoke "createCookie" [pair, rest]) = .ok .void ↔
          ∃ name value, Writes (.invoke "createCookie" [pair, rest]) name (some value) := by
  refine ⟨cookieAnswers site calls, cookiesApart site calls, ?_⟩
  intro s pair rest
  show ((createCookie pair >>= fun _ => pure Value.void) s).1 = .ok .void ↔ _
  constructor
  · intro h
    rcases hp : Text.splitFirst? '=' pair with _ | ⟨name, value⟩
    · simp only [createCookie, hp] at h
      cases h
    · obtain ⟨rfl, hname⟩ := split_pair.mp hp
      exact ⟨_, _, .create rest hname⟩
  · rintro ⟨_, _, hwrites⟩
    obtain ⟨key, text, _, hcall, hkey⟩ := hwrites.created
    cases hcall
    have hp : Text.splitFirst? '=' (key ++ "=" ++ text) = some (key, text) :=
      split_pair.mpr ⟨rfl, hkey⟩
    simp only [createCookie, hp]
    rfl

example :
    (reached {} [.invoke "createCookie" [" b = 1=2 ", ""], .invoke "createCookie" ["a=x", ""],
      .invoke "createCookie" ["c", ""], .invoke "deleteCookie" [" a", ""]]).cookieText =
      "a=x; b=1=2" := by
  decide +kernel

end Session

end TableTest
