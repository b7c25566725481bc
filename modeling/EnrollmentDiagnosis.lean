import EnrollmentDiagnosis.Deployment
import EnrollmentDiagnosis.Detection.Description
import EnrollmentDiagnosis.Proofs.AcceptedDocuments
import EnrollmentDiagnosis.Proofs.AddedEvents
import EnrollmentDiagnosis.Proofs.AgreeingCounts
import EnrollmentDiagnosis.Proofs.AnalysisLoop
import EnrollmentDiagnosis.Proofs.ArrivalOrder
import EnrollmentDiagnosis.Proofs.AsciiTexts
import EnrollmentDiagnosis.Proofs.CalendarDates
import EnrollmentDiagnosis.Proofs.CatalogueRuns
import EnrollmentDiagnosis.Proofs.ComparedDurations
import EnrollmentDiagnosis.Proofs.CompletedRules
import EnrollmentDiagnosis.Proofs.ConcurrentStore
import EnrollmentDiagnosis.Proofs.DeliverySchedules
import EnrollmentDiagnosis.Proofs.DurationTexts
import EnrollmentDiagnosis.Proofs.ExchangedPairs
import EnrollmentDiagnosis.Proofs.FactorGrammar
import EnrollmentDiagnosis.Proofs.FactorOrder
import EnrollmentDiagnosis.Proofs.FieldSpellings
import EnrollmentDiagnosis.Proofs.FoldedTypes
import EnrollmentDiagnosis.Proofs.GroundedEvidence
import EnrollmentDiagnosis.Proofs.LateEvents
import EnrollmentDiagnosis.Proofs.LiveConditions
import EnrollmentDiagnosis.Proofs.LoggedOperations
import EnrollmentDiagnosis.Proofs.MalformedConditions
import EnrollmentDiagnosis.Proofs.PassingTime
import EnrollmentDiagnosis.Proofs.PayloadPaths
import EnrollmentDiagnosis.Proofs.PhaseSpans
import EnrollmentDiagnosis.Proofs.PlainLabels
import EnrollmentDiagnosis.Proofs.PrecedingStarts
import EnrollmentDiagnosis.Proofs.RankedReports
import EnrollmentDiagnosis.Proofs.ReadsInTurn
import EnrollmentDiagnosis.Proofs.RecordFields
import EnrollmentDiagnosis.Proofs.RepeatedLoads
import EnrollmentDiagnosis.Proofs.ReportedDocuments
import EnrollmentDiagnosis.Proofs.RoundedQuotients
import EnrollmentDiagnosis.Proofs.RuleVerdicts
import EnrollmentDiagnosis.Proofs.ScoringMarks
import EnrollmentDiagnosis.Proofs.SessionRepetition
import EnrollmentDiagnosis.Proofs.TenantIsolation
import EnrollmentDiagnosis.Proofs.TerminalEvents
import EnrollmentDiagnosis.Proofs.TimeTexts
import EnrollmentDiagnosis.Proofs.ValidatedUploads
import EnrollmentDiagnosis.Proofs.WrittenEvents
import EnrollmentDiagnosis.Proofs.WrittenRules
import EnrollmentDiagnosis.RuleBook.Validation
import EnrollmentDiagnosis.Settings
