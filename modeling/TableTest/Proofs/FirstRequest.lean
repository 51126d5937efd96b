/-
`TableTest.Proofs.FirstRequest` — the first request for its catalog decides a cell

A cell can be looked into, and it can be asked for its catalog; who asks brings settings and
capabilities to make it of.  Only the first who asks is listened to: what making comes to then, be
it a catalog or a name that cannot be registered, is what the cell holds from there on.  So whoever
asks later is given the same, whatever is brought along.  Whoever looks finds the catalog, if making
has come to one, and nothing before that.
-/
import TableTest.Catalog.Cell
import TableTest.Proofs.Registration

namespace TableTest.Catalog.Cell

/-! ## Requests and replies -/

/-- A request to a cell. -/
inductive Request where
  /-- To look whether there is a catalog. -/
  | look
  /-- To be given the catalog, with what it is to be made of. -/
  | ask (settings : CatalogSettings) (cs : List Capability)

/-- The reply to a request. -/
inductive Reply where
  | found (catalog : Option Catalog)
  /-- The outcome, and whether the capabilities of the request were asked for. -/
  | given (asked : Bool) (outcome : Except Failure Catalog)
deriving DecidableEq

/-- What a cell replies to a request, and the cell after it. -/
def serve (cell : Cell) : Request → Reply × Cell
  | .look => (.found cell.get?, cell)
  | .ask settings cs =>
    let answer := cell.getOrBuild settings cs
    (.given answer.asked answer.outcome, answer.cell)

/-- The cell after requests, one after the other. -/
def after (cell : Cell) (requests : List Request) : Cell :=
  requests.foldl (fun cell request => (cell.serve request).2) cell

/-- The replies to requests, one after the other. -/
def replies (cell : Cell) : List Request → List Reply
  | [] => []
  | request :: requests => (cell.serve request).1 :: (cell.serve request).2.replies requests

/-! ## What the replies ought to be -/

/-- None of the requests asks for the catalog. -/
def Undecided (requests : List Request) : Prop :=
  ∀ request ∈ requests, request = .look

/-- The first of the requests that asks for the catalog brings these settings and capabilities. -/
def DecidedBy (settings : CatalogSettings) (cs : List Capability) (requests : List Request) :
    Prop :=
  ∃ looks rest, requests = looks ++ .ask settings cs :: rest ∧ Undecided looks

/-- The reply that is due to a request to a new cell, after others. -/
inductive Due (before : List Request) : Request → Reply → Prop
  /-- The first who asks is asked for the capabilities, and given what making comes to. -/
  | first {settings : CatalogSettings} {cs : List Capability} : Undecided before →
      Due before (.ask settings cs) (.given true (build settings cs))
  /-- Whoever asks later is given what the first was given, and asked for nothing. -/
  | later {settings settings' : CatalogSettings} {cs cs' : List Capability} :
      DecidedBy settings cs before →
      Due before (.ask settings' cs') (.given false (build settings cs))
  /-- Whoever looks finds the catalog that the first was given. -/
  | found {settings : CatalogSettings} {cs : List Capability} {catalog : Catalog} :
      DecidedBy settings cs before → build settings cs = .ok catalog →
      Due before .look (.found (some catalog))
  /-- If the first was given none, there is none to be found. -/
  | refused {settings : CatalogSettings} {cs : List Capability} {name : String} :
      DecidedBy settings cs before → build settings cs = .error (.catalogConsistency name) →
      Due before .look (.found none)
  /-- Nor is there one before anybody has asked. -/
  | blank : Undecided before → Due before .look (.found none)

variable {settings : CatalogSettings} {cs : List Capability} {cell : Cell} {request : Request}
  {before requests : List Request} {reply : Reply} {made : Except String Catalog}

theorem undecided_or_decided : ∀ requests : List Request,
    Undecided requests ∨ ∃ settings cs, DecidedBy settings cs requests
  | [] => Or.inl nofun
  | .ask settings cs :: requests => Or.inr ⟨settings, cs, [], requests, rfl, nofun⟩
  | .look :: requests => by
      rcases undecided_or_decided requests with hno | ⟨settings, cs, looks, rest, rfl, hlooks⟩
      · exact Or.inl (List.forall_mem_cons.mpr ⟨rfl, hno⟩)
      · exact Or.inr ⟨settings, cs, .look :: looks, rest, rfl,
          List.forall_mem_cons.mpr ⟨rfl, hlooks⟩⟩

/-! ## What a cell holds -/

theorem getOrBuild_of_made (hmade : cell.made = some made) :
    cell.getOrBuild settings cs = answer false made := by
  rw [getOrBuild, hmade]

/-- A cell that holds something keeps it. -/
theorem serve_of_made (hmade : cell.made = some made) (request : Request) :
    (cell.serve request).2 = cell := by
  cases request with
  | look => rfl
  | ask settings cs =>
      rw [serve, getOrBuild_of_made hmade, answer, ← hmade]

theorem after_of_made (hmade : cell.made = some made) : cell.after requests = cell := by
  induction requests with
  | nil => rfl
  | cons request requests ih =>
      show (cell.serve request).2.after requests = cell
      rw [serve_of_made hmade, ih]

/-- Looking into a cell leaves it as it is. -/
theorem after_of_undecided (hno : Undecided requests) : cell.after requests = cell := by
  induction requests with
  | nil => rfl
  | cons request requests ih =>
      obtain ⟨rfl, hrest⟩ := List.forall_mem_cons.mp hno
      exact ih hrest

theorem after_append (cell : Cell) (before rest : List Request) :
    cell.after (before ++ rest) = (cell.after before).after rest :=
  List.foldl_append

/-- After the first who asks, a new cell holds what making comes to. -/
theorem made_of_decided (hdecided : DecidedBy settings cs requests) :
    (after {} requests).made = some (assemble settings cs) := by
  obtain ⟨looks, rest, rfl, hlooks⟩ := hdecided
  have hfirst : (serve {} (.ask settings cs)).2.made = some (assemble settings cs) := rfl
  rw [after_append, after_of_undecided hlooks]
  show ((serve {} (.ask settings cs)).2.after rest).made = _
  rw [after_of_made hfirst, hfirst]

/-! ## The replies -/

theorem Due.eq_serve (hdue : Due before request reply) :
    ((after {} before).serve request).1 = reply := by
  cases hdue with
  | first hno => rw [after_of_undecided hno]; rfl
  | later hdecided =>
      rw [serve, getOrBuild_of_made (made_of_decided hdecided)]
      rfl
  | found hdecided hok =>
      have hmade : assemble _ _ = .ok _ := Except.mapError_ok_iff.mp hok
      rw [serve, get?, made_of_decided hdecided, hmade]
  | refused hdecided herror =>
      obtain ⟨name, hmade, -⟩ := Except.mapError_error_iff.mp herror
      rw [serve, get?, made_of_decided hdecided, hmade]
  | blank hno => rw [after_of_undecided hno]; rfl

/-- Some reply is due to every request. -/
theorem exists_due (before : List Request) (request : Request) :
    ∃ reply, Due before request reply := by
  rcases undecided_or_decided before with hno | ⟨settings, cs, hdecided⟩
  · cases request with
    | look => exact ⟨_, .blank hno⟩
    | ask settings cs => exact ⟨_, .first hno⟩
  · cases request with
    | ask settings' cs' => exact ⟨_, .later hdecided⟩
    | look =>
        cases hbuild : build settings cs with
        | ok catalog => exact ⟨_, .found hdecided hbuild⟩
        | error e =>
            obtain ⟨name, -, rfl⟩ := Except.mapError_error_iff.mp hbuild
            exact ⟨_, .refused hdecided hbuild⟩

theorem serve_eq_iff : ((after {} before).serve request).1 = reply ↔ Due before request reply := by
  constructor
  · rintro rfl
    obtain ⟨reply, hdue⟩ := exists_due before request
    exact hdue.eq_serve ▸ hdue
  · exact Due.eq_serve

theorem length_replies (cell : Cell) (requests : List Request) :
    (cell.replies requests).length = requests.length := by
  induction requests generalizing cell with
  | nil => rfl
  | cons request requests ih => rw [replies, List.length_cons, List.length_cons, ih]

theorem replies_at (cell : Cell) (before rest : List Request) (request : Request) :
    (cell.replies (before ++ request :: rest))[before.length]? =
      some ((cell.after before).serve request).1 := by
  induction before generalizing cell with
  | nil => rfl
  | cons first before ih =>
      rw [List.cons_append, replies, List.length_cons, List.getElem?_cons_succ, ih]
      rfl

/-- A new cell replies once to each request, in turn, and every reply is the one that is due: the
first who asks is asked for the capabilities and given what making a catalog of them comes to;
whoever asks later is given the same and asked for nothing; and whoever looks finds that catalog
from then on, if there is one, and nothing otherwise. -/
theorem first_request_decides :
    (∀ requests, (replies {} requests).length = requests.length) ∧
    ∀ before request rest reply,
      (replies {} (before ++ request :: rest))[before.length]? = some reply ↔
        Due before request reply := by
  refine ⟨length_replies {}, ?_⟩
  intro before request rest reply
  rw [replies_at, Option.some.injEq]
  exact serve_eq_iff

/-- Two accessors of one short name come first, and one method that would do comes later. -/
example :
    let clash : Except Failure Catalog := .error (.catalogConsistency "assertFoo")
    replies {} [.look, .ask {} [⟨"getFoo", 0⟩, ⟨"isFoo", 0⟩], .ask {} [⟨"click", 1⟩], .look] =
      [.found none, .given true clash, .given false clash, .found none] := by
  decide +kernel

end TableTest.Catalog.Cell
