import TableTest.Catalog.Cell
import TableTest.Main
import TableTest.Proofs.CasePage
import TableTest.Proofs.CaseRun
import TableTest.Proofs.CatalogStability
import TableTest.Proofs.CheckFamily
import TableTest.Proofs.CheckInsertion
import TableTest.Proofs.Cookies
import TableTest.Proofs.ExitStatus
import TableTest.Proofs.FailFast
import TableTest.Proofs.FailureRecord
import TableTest.Proofs.GoingBack
import TableTest.Proofs.Lifecycle
import TableTest.Proofs.RadioGroup
import TableTest.Proofs.Registration
import TableTest.Proofs.Selection
import TableTest.Proofs.SessionFailure
import TableTest.Proofs.SessionInvariant
import TableTest.Proofs.SuiteAgreement
import TableTest.Proofs.SuiteReport
import TableTest.Proofs.Typing
import TableTest.Proofs.Waiting
import TableTest.Proofs.LocatorSyntax
import TableTest.Proofs.Denotation
import TableTest.Proofs.ScriptResolution
import TableTest.Proofs.StepOutcome
import TableTest.Proofs.ElementCommands
import TableTest.Proofs.Readiness
import TableTest.Proofs.DerivedNames
import TableTest.Proofs.FirstRequest
