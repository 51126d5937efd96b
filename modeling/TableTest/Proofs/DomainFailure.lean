/-
`TableTest.Proofs.DomainFailure` — a session fails only as its page does

A page is missing, a locator is not understood or denotes nothing, an element is of another kind,
a number of milliseconds is none: whatever stands in the way of finding something in the session, or
of answering a query, is reported as a failure of the page under test.
-/
import TableTest.Proofs.Failure
import TableTest.Proofs.LocatorSyntax
import TableTest.Session.Command

namespace TableTest

theorem Locator.isFatal_parse (text : String) : isFatal (parse text) = false := by
  cases hparse : parse text with
  | ok l => rfl
  | error f =>
      obtain ⟨-, strategy, rfl⟩ := parse_error hparse
      rfl

namespace Session

variable (site : Site) (s : Session)

/-! ## Looking something up -/

theorem isFatal_page : isFatal (s.page site) = false := by
  unfold Session.page
  split <;> rfl

theorem isFatal_find (locator : String) : isFatal (s.find locator) = false := by
  refine isFatal_bind (Locator.isFatal_parse locator) ?_
  intro l
  split <;> rfl

theorem isFatal_locate (locator : String) : isFatal (s.locate locator) = false := by
  refine isFatal_bind (s.isFatal_find locator) ?_
  intro i
  split <;> rfl

theorem isFatal_element (locator : String) : isFatal (s.element locator) = false := by
  rw [element, isFatal_map]
  exact s.isFatal_locate locator

theorem isFatal_readMillis (command text : String) : isFatal (readMillis command text) = false := by
  unfold readMillis
  split <;> rfl

theorem isFatal_await (timeout : String) : isFatal (s.await site timeout) = false := by
  refine isFatal_bind (isFatal_readMillis _ timeout) ?_
  intro millis
  refine isFatal_bind (s.isFatal_page site) ?_
  intro page
  split <;> rfl

theorem handle_await_fst (timeout : String) :
    ((handle site).await timeout s).1 = s.await site timeout := by
  simp only [handle]

/-! ## Queries -/

theorem isFatal_attributeAt (path : String) : isFatal (s.attributeAt path) = false := by
  unfold attributeAt
  split
  · rfl
  · refine isFatal_bind (s.isFatal_element _) ?_
    intro e
    split <;> rfl

theorem isFatal_labelAt (locator : String) : isFatal (s.labelAt locator) = false := by
  refine isFatal_bind (s.isFatal_element locator) ?_
  intro e
  split
  · split <;> rfl
  · rfl

theorem isFatal_isPresent (locator : String) : isFatal (s.isPresent locator) = false := by
  unfold isPresent
  have hfind := s.isFatal_find locator
  split
  · rfl
  · rfl
  · next e he =>
    rw [he] at hfind
    exact hfind

theorem isFatal_checkedAt (locator : String) : isFatal (s.checkedAt locator) = false := by
  refine isFatal_bind (s.isFatal_element locator) ?_
  intro e
  split <;> rfl

theorem isFatal_ask (q : Query) : isFatal (s.ask site q) = false := by
  cases q with
  | title | bodyText | textPresent _ =>
      rw [ask, isFatal_map]
      exact s.isFatal_page site
  | location =>
      simp only [ask]
      split <;> rfl
  | ids _ | cookies | cookie _ | cookiePresent _ => rfl
  | text locator | value locator | visible locator | editable locator =>
      rw [ask, isFatal_map]
      exact s.isFatal_element locator
  | «attribute» path => exact s.isFatal_attributeAt path
  | selectedLabel locator => exact s.isFatal_labelAt locator
  | elementPresent locator => exact s.isFatal_isPresent locator
  | checked locator => exact s.isFatal_checkedAt locator

end Session

end TableTest
