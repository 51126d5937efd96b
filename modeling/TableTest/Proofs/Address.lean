/-
`TableTest.Proofs.Address` — resolving an address that has been resolved

A target that begins with a slash is put after the base address, and what that gives may begin
with a slash as well.  Then resolving it once more puts it after the base a second time.  It
does not if the base, less the slashes at its end, begins with another character or is empty: on
such a site, and only there, every address that resolving gives stands for itself.
-/
import TableTest.Site

namespace TableTest

/-! ## Texts that begin with a slash -/

namespace Text

theorem startsWith_slash_iff {s : String} :
    startsWith "/" s = true ↔ ∃ rest, s.toList = '/' :: rest := by
  show ['/'].isPrefixOf s.toList = true ↔ _
  cases s.toList with
  | nil => simp
  | cons c cs =>
      simp only [List.isPrefixOf, Bool.and_true, beq_iff_eq, List.cons.injEq, exists_and_left,
        exists_eq', and_true]
      exact eq_comm

theorem startsWith_slash_append {s : String} (h : startsWith "/" s = true) (t : String) :
    startsWith "/" (s ++ t) = true := by
  obtain ⟨rest, hs⟩ := startsWith_slash_iff.mp h
  exact startsWith_slash_iff.mpr ⟨rest ++ t.toList, by rw [String.toList_append, hs]; rfl⟩

/-- What stands before a text that begins with a slash decides whether the whole does. -/
theorem startsWith_slash_of_append {s t : String} (h : startsWith "/" (s ++ t) = true) :
    s = "" ∨ startsWith "/" s = true := by
  obtain ⟨rest, hst⟩ := startsWith_slash_iff.mp h
  rw [String.toList_append] at hst
  cases hs : s.toList with
  | nil => exact Or.inl (String.toList_eq_nil_iff.mp hs)
  | cons c cs =>
      rw [hs, List.cons_append, List.cons.injEq] at hst
      exact Or.inr (startsWith_slash_iff.mpr ⟨cs, by rw [hs, hst.1]⟩)

end Text

namespace Site

variable {site : Site} {target : String}

theorem resolveUrl_of_slash {base : String} (hbase : site.baseUrl = some base)
    (h : Text.startsWith "/" target = true) :
    site.resolveUrl target = Text.dropTail '/' base ++ target := by
  simp [resolveUrl, hbase, h]

theorem resolveUrl_of_no_slash (h : Text.startsWith "/" target = false) :
    site.resolveUrl target = target := by
  cases hbase : site.baseUrl <;> simp [resolveUrl, hbase, h]

theorem resolveUrl_of_no_base (hbase : site.baseUrl = none) (target : String) :
    site.resolveUrl target = target := by
  simp [resolveUrl, hbase]

/-- The base address of the site, less the slashes at its end, does not begin with a slash. -/
def Settled (site : Site) : Prop :=
  ∀ base, site.baseUrl = some base → Text.startsWith "/" (Text.dropTail '/' base) = false

/-- On a settled site an address that resolving has given stands for itself. -/
theorem Settled.resolveUrl_resolveUrl (h : site.Settled) (target : String) :
    site.resolveUrl (site.resolveUrl target) = site.resolveUrl target := by
  cases hbase : site.baseUrl with
  | none => rw [resolveUrl_of_no_base hbase (site.resolveUrl target)]
  | some base =>
      cases ht : Text.startsWith "/" target with
      | false => rw [resolveUrl_of_no_slash ht, resolveUrl_of_no_slash ht]
      | true =>
          rw [resolveUrl_of_slash hbase ht]
          cases hu : Text.startsWith "/" (Text.dropTail '/' base ++ target) with
          | false => exact resolveUrl_of_no_slash hu
          | true =>
              -- only an empty base leaves the slash of the target in front
              rcases Text.startsWith_slash_of_append hu with hempty | hslash
              · rw [resolveUrl_of_slash hbase hu, hempty, String.empty_append,
                  String.empty_append]
              · rw [h base hbase] at hslash
                cases hslash

/-- On any other site not even the address of its top does. -/
theorem settled_iff :
    site.Settled ↔ ∀ target,
      site.resolveUrl (site.resolveUrl target) = site.resolveUrl target := by
  constructor
  · exact Settled.resolveUrl_resolveUrl
  · intro h base hbase
    cases hslash : Text.startsWith "/" (Text.dropTail '/' base) with
    | false => rfl
    | true =>
        have htop : site.resolveUrl "/" = Text.dropTail '/' base ++ "/" :=
          resolveUrl_of_slash hbase rfl
        have htwice := h "/"
        rw [htop, resolveUrl_of_slash hbase (Text.startsWith_slash_append hslash "/")] at htwice
        -- the base stands there twice, and it is not empty
        obtain ⟨rest, hrest⟩ := Text.startsWith_slash_iff.mp hslash
        have hlen := congrArg (·.toList.length) htwice
        simp [hrest] at hlen

end Site

end TableTest
