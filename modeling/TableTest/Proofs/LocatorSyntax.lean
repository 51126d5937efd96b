/-
`TableTest.Proofs.LocatorSyntax` — how a locator is written

A text is refused if it begins like a path or like an expression on the document, or if it names a
strategy that the browser does not have; whatever else it is, it can be read.  What stands before
its first equals sign may name one of four strategies, and then the rest is the value.  Every other
text is an identifier as a whole.  The written form of an identifier does not name its strategy, so
it is read back only if it is such a text; every other locator is read back from its written form,
whatever its value is.
-/
import TableTest.Locator
import TableTest.Proofs.Affix

namespace TableTest.Locator

variable {text left right : String}

/-! ## The grammar -/

/-- The text is `left` up to its first equals sign, and `right` after it. -/
def Cut (text left right : String) : Prop :=
  text = left ++ "=" ++ right ∧ '=' ∉ left.toList

/-- The names before an equals sign that say how an element is named; the browser has the first
four of these strategies. -/
def strategies : List String := ["id", "name", "link", "identifier", "xpath", "css", "dom", "ui"]

/-- The text is no locator that the browser can read. -/
def Refused (text : String) : Prop :=
  (∃ rest, text = "//" ++ rest) ∨ (∃ rest, text = "document." ++ rest) ∨
    ∃ left right, Cut text left right ∧ left ∈ ["xpath", "css", "dom", "ui"]

/-- The text neither begins like a path or an expression on the document nor names a strategy. -/
structure Bare (text : String) : Prop where
  path : ¬ ∃ rest, text = "//" ++ rest
  document : ¬ ∃ rest, text = "document." ++ rest
  strategy : ∀ left right, Cut text left right → left ∉ strategies

/-- The text is read as a locator. -/
inductive Reads (text : String) : Locator → Prop
  | id {value : String} : Cut text "id" value → Reads text (.id value)
  | name {value : String} : Cut text "name" value → Reads text (.name value)
  | link {value : String} : Cut text "link" value → Reads text (.link value)
  | identifier {value : String} : Cut text "identifier" value → Reads text (.identifier value)
  | bare : Bare text → Reads text (.identifier text)

theorem cut_iff : Cut text left right ↔ Text.splitFirst? '=' text = some (left, right) := by
  rw [Text.splitFirst?_eq_some_iff]
  rfl

/-- A text that names a strategy begins as its name does. -/
theorem Cut.startsWith_eq_false {head : String} (h : Cut text left right)
    (hleft : Text.startsWith head left = false) (hequals : '=' ∉ head.toList) :
    Text.startsWith head text = false := by
  obtain ⟨rfl, -⟩ := h
  rw [String.append_assoc]
  refine Text.startsWith_append_eq_false hleft ?_
  intro c hc hhead
  obtain rfl : '=' = c := by simpa using hhead
  exact hequals hc

theorem startsWith_strategy : ∀ left ∈ strategies,
    Text.startsWith "//" left = false ∧ Text.startsWith "document." left = false := by
  decide

/-- Whatever a text is, it is refused or it is read. -/
theorem refused_or_reads (text : String) : Refused text ∨ ∃ l, Reads text l := by
  by_cases hpath : ∃ rest, text = "//" ++ rest
  · exact Or.inl (Or.inl hpath)
  by_cases hdocument : ∃ rest, text = "document." ++ rest
  · exact Or.inl (Or.inr (Or.inl hdocument))
  by_cases hstrategy : ∃ left right, Cut text left right ∧ left ∈ strategies
  · obtain ⟨left, right, hcut, hin⟩ := hstrategy
    simp only [strategies, List.mem_cons, List.not_mem_nil, or_false] at hin
    rcases hin with rfl | rfl | rfl | rfl | hin
    · exact Or.inr ⟨_, .id hcut⟩
    · exact Or.inr ⟨_, .name hcut⟩
    · exact Or.inr ⟨_, .link hcut⟩
    · exact Or.inr ⟨_, .identifier hcut⟩
    · exact Or.inl (Or.inr (Or.inr ⟨left, right, hcut, by simpa using hin⟩))
  · exact Or.inr ⟨_, .bare ⟨hpath, hdocument, fun left right hcut hin =>
      hstrategy ⟨left, right, hcut, hin⟩⟩⟩

/-! ## Reading -/

theorem parse_of_not_begins (hpath : Text.startsWith "//" text = false)
    (hdocument : Text.startsWith "document." text = false) :
    parse text = match Text.splitFirst? '=' text with
      | some (left, right) => ofStrategy text left right
      | none => .ok (.identifier text) := by
  rw [parse, hpath, hdocument]
  rfl

theorem parse_of_strategy (hcut : Cut text left right) (hin : left ∈ strategies) :
    parse text = ofStrategy text left right := by
  obtain ⟨hpath, hdocument⟩ := startsWith_strategy left hin
  rw [parse_of_not_begins (hcut.startsWith_eq_false hpath (by decide))
    (hcut.startsWith_eq_false hdocument (by decide)), cut_iff.mp hcut]

theorem ofStrategy_of_unsupported (hin : left ∈ ["xpath", "css", "dom", "ui"]) :
    ofStrategy text left right = .error (refusal text left) := by
  simp only [List.mem_cons, List.not_mem_nil, or_false] at hin
  rcases hin with rfl | rfl | rfl | rfl <;> rfl

theorem ofStrategy_of_other (hout : left ∉ strategies) :
    ofStrategy text left right = .ok (.identifier text) := by
  unfold ofStrategy
  split
  case h_5 =>
    refine if_neg ?_
    intro hin
    exact hout (List.mem_append_right ["id", "name", "link", "identifier"]
      (List.contains_iff_mem.mp hin))
  all_goals exact absurd (by decide) hout

theorem parse_of_reads {l : Locator} (h : Reads text l) : parse text = .ok l := by
  cases h with
  | id hcut | name hcut | link hcut | identifier hcut =>
      rw [parse_of_strategy hcut (by decide)]
      rfl
  | bare h =>
      rw [parse_of_not_begins (Text.startsWith_eq_false h.path)
        (Text.startsWith_eq_false h.document)]
      split
      · next hsplit => exact ofStrategy_of_other (h.strategy _ _ (cut_iff.mpr hsplit))
      · rfl

theorem parse_of_refused (h : Refused text) :
    ∃ strategy, parse text = .error (refusal text strategy) := by
  rcases h with hpath | hdocument | ⟨left, right, hcut, hin⟩
  · exact ⟨"xpath", if_pos (Text.startsWith_iff.mpr hpath)⟩
  · unfold parse
    split
    · exact ⟨"xpath", rfl⟩
    · exact ⟨"dom", if_pos (Text.startsWith_iff.mpr hdocument)⟩
  · refine ⟨left, ?_⟩
    rw [parse_of_strategy hcut (List.mem_append_right ["id", "name", "link", "identifier"] hin)]
    exact ofStrategy_of_unsupported hin

theorem parse_ok_iff {l : Locator} : parse text = .ok l ↔ Reads text l := by
  refine ⟨?_, parse_of_reads⟩
  intro hok
  rcases refused_or_reads text with href | ⟨l', hreads⟩
  · obtain ⟨strategy, herr⟩ := parse_of_refused href
    cases hok.symm.trans herr
  · cases hok.symm.trans (parse_of_reads hreads)
    exact hreads

/-- A text that cannot be read is one that is refused, and the failure says so. -/
theorem parse_error {f : Failure} (h : parse text = .error f) :
    Refused text ∧ ∃ strategy, f = refusal text strategy := by
  rcases refused_or_reads text with href | ⟨l, hreads⟩
  · obtain ⟨strategy, herr⟩ := parse_of_refused href
    cases h.symm.trans herr
    exact ⟨href, strategy, rfl⟩
  · cases h.symm.trans (parse_of_reads hreads)

/-! ## Writing and reading back -/

/-- No text is what stands after an equals sign in itself. -/
theorem not_cut_self : ¬ Cut text left text := by
  rintro ⟨htext, -⟩
  have hlength := congrArg String.length htext
  rw [String.length_append, String.length_append, show "=".length = 1 from rfl] at hlength
  omega

theorem parse_render_identifier_iff :
    parse (render (.identifier text)) = .ok (.identifier text) ↔ Bare text := by
  show parse text = _ ↔ _
  rw [parse_ok_iff]
  constructor
  · intro h
    cases h with
    | identifier hcut => exact absurd hcut not_cut_self
    | bare h => exact h
  · exact .bare

/-- Reading fails exactly on the texts that are refused, always as the page under test does, and
gives what is written otherwise.  Every locator is read back from its written form, but for an
identifier that begins like a path or an expression on the document, or names a strategy. -/
theorem locator_syntax (text value : String) :
    ((∃ f, parse text = .error f) ↔ Refused text) ∧
    (∀ f, parse text = .error f → f.isDomain = true) ∧
    (∀ l, parse text = .ok l ↔ Reads text l) ∧
    parse (render (.id value)) = .ok (.id value) ∧
    parse (render (.name value)) = .ok (.name value) ∧
    parse (render (.link value)) = .ok (.link value) ∧
    (parse (render (.identifier value)) = .ok (.identifier value) ↔ Bare value) := by
  refine ⟨⟨?_, ?_⟩, ?_, fun l => parse_ok_iff, ?_, ?_, ?_, ?_⟩
  · rintro ⟨f, h⟩
    exact (parse_error h).1
  · intro h
    obtain ⟨strategy, herr⟩ := parse_of_refused h
    exact ⟨_, herr⟩
  · intro f h
    obtain ⟨-, strategy, rfl⟩ := parse_error h
    rfl
  · exact parse_of_reads (.id ⟨rfl, by decide⟩)
  · exact parse_of_reads (.name ⟨rfl, by decide⟩)
  · exact parse_of_reads (.link ⟨rfl, by decide⟩)
  · exact parse_render_identifier_iff

end TableTest.Locator
