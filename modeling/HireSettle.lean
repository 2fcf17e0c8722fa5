import HireSettle.Admin.AuditExport
import HireSettle.Admin.AuditLogs
import HireSettle.Admin.BalanceAlerts
import HireSettle.Admin.IncomingPayments
import HireSettle.Admin.KeptDeposits
import HireSettle.Admin.ReadableExports
import HireSettle.Admin.ReportExports
import HireSettle.Admin.ResolvedPayments
import HireSettle.Admin.RevenueDashboard
import HireSettle.Auth.Accounts
import HireSettle.Auth.ApiKeys
import HireSettle.Auth.ClosedAccounts
import HireSettle.Auth.JwtKeyStore
import HireSettle.Auth.Lockouts
import HireSettle.Auth.RecoveryCodeUses
import HireSettle.Auth.RecoveryCodes
import HireSettle.Auth.Rotations
import HireSettle.Auth.SessionFamilies
import HireSettle.Auth.SessionReuse
import HireSettle.Auth.Sessions
import HireSettle.Auth.TwoFactorSecrets
import HireSettle.Billing.BillingService
import HireSettle.Billing.BillingTables
import HireSettle.Billing.CreditLedger
import HireSettle.Billing.CreditLedgerRuns
import HireSettle.Billing.FeeIdempotence
import HireSettle.Billing.InvoicePdf
import HireSettle.Billing.InvoiceTax
import HireSettle.Common.CacheService
import HireSettle.Common.Calls
import HireSettle.Common.CsvCells
import HireSettle.Common.DistributedLock
import HireSettle.Common.Idempotency
import HireSettle.Common.Json
import HireSettle.Common.S3Cleanup
import HireSettle.Common.StoredSettings
import HireSettle.Common.SystemConfig
import HireSettle.Common.Users
import HireSettle.Companies.InvitedMembers
import HireSettle.Companies.MemberRuns
import HireSettle.Companies.Members
import HireSettle.Companies.OwnerTurns
import HireSettle.Escrow.ActivityFeed
import HireSettle.Escrow.ActivityPages
import HireSettle.Escrow.AppealIndependence
import HireSettle.Escrow.AppealLock
import HireSettle.Escrow.AppealWindows
import HireSettle.Escrow.Appeals
import HireSettle.Escrow.ApproachingNotices
import HireSettle.Escrow.ArbiterFees
import HireSettle.Escrow.ArbiterSelection
import HireSettle.Escrow.AtomicEvents
import HireSettle.Escrow.CallEffects
import HireSettle.Escrow.ChainEvents
import HireSettle.Escrow.ChainMirror
import HireSettle.Escrow.Database
import HireSettle.Escrow.DeadLetters
import HireSettle.Escrow.Disputes
import HireSettle.Escrow.EarlyUnlocks
import HireSettle.Escrow.EngagementImport
import HireSettle.Escrow.EngagementInvites
import HireSettle.Escrow.Engagements
import HireSettle.Escrow.EventDelivery
import HireSettle.Escrow.EventPolling
import HireSettle.Escrow.FailedReleases
import HireSettle.Escrow.FailedSettlements
import HireSettle.Escrow.FileScans
import HireSettle.Escrow.FinishedDisputes
import HireSettle.Escrow.FundedAccounts
import HireSettle.Escrow.HorizonIndexer
import HireSettle.Escrow.ImportedTables
import HireSettle.Escrow.IndexedEvents
import HireSettle.Escrow.InviteRuns
import HireSettle.Escrow.KeptTerms
import HireSettle.Escrow.LiveEngagements
import HireSettle.Escrow.LiveOnChain
import HireSettle.Escrow.MilestoneComments
import HireSettle.Escrow.MilestonePercents
import HireSettle.Escrow.Milestones
import HireSettle.Escrow.NotifiedParties
import HireSettle.Escrow.OpenDisputes
import HireSettle.Escrow.OutsideApprovals
import HireSettle.Escrow.Outsiders
import HireSettle.Escrow.OverdueDisputes
import HireSettle.Escrow.PaidMilestones
import HireSettle.Escrow.PartialReleaseRuns
import HireSettle.Escrow.PartialReleases
import HireSettle.Escrow.PartialSplits
import HireSettle.Escrow.PercentSplits
import HireSettle.Escrow.ProofApprovals
import HireSettle.Escrow.ProofHashes
import HireSettle.Escrow.ProofHistory
import HireSettle.Escrow.ProofSla
import HireSettle.Escrow.ProofSlaRuns
import HireSettle.Escrow.ProofSubmissions
import HireSettle.Escrow.ProofVersions
import HireSettle.Escrow.QuarantinedFiles
import HireSettle.Escrow.Reconciliation
import HireSettle.Escrow.RecordedPayouts
import HireSettle.Escrow.Recusals
import HireSettle.Escrow.ReleaseRuns
import HireSettle.Escrow.ReleasedTotals
import HireSettle.Escrow.ReplacementResets
import HireSettle.Escrow.RetentionRuns
import HireSettle.Escrow.RetentionSchedulers
import HireSettle.Escrow.ServedCalls
import HireSettle.Escrow.SettlementRuns
import HireSettle.Escrow.SpendingLimits
import HireSettle.Escrow.StatusAudits
import HireSettle.Escrow.StoredPayloads
import HireSettle.Escrow.TemplateVersions
import HireSettle.GraphQL.BatchLoader
import HireSettle.GraphQL.GraphqlLoaders
import HireSettle.GraphQL.SettledLoads
import HireSettle.Multisig.PendingTransactions
import HireSettle.Multisig.SubmissionRuns
import HireSettle.Stellar.ChallengeUses
import HireSettle.Stellar.FeeSponsorship
import HireSettle.Stellar.HorizonFailover
import HireSettle.Stellar.MergeDetector
import HireSettle.Stellar.Sep10
import HireSettle.Users.AnonymizationRuns
import HireSettle.Users.AnonymizedRows
import HireSettle.Users.Calendar
import HireSettle.Users.ConfirmedEmails
import HireSettle.Users.EmailChanges
import HireSettle.Users.Erasure
import HireSettle.Users.Kyc
import HireSettle.Users.NonceReplays
import HireSettle.Users.WalletRebinds
import HireSettle.Webhooks.BillingWebhook
import HireSettle.Webhooks.SubscriptionReplays
import HireSettle.Webhooks.WebhookProcessor
import HireSettle.Workflow.BitGroups
import HireSettle.Workflow.Buckets
import HireSettle.Workflow.Calendars
import HireSettle.Workflow.ContentLines
import HireSettle.Workflow.CursorWalks
import HireSettle.Workflow.Dates
import HireSettle.Workflow.Effects
import HireSettle.Workflow.Embedding
import HireSettle.Workflow.Facts
import HireSettle.Workflow.Guards
import HireSettle.Workflow.JsonTexts
import HireSettle.Workflow.Keyset
import HireSettle.Workflow.Listings
import HireSettle.Workflow.Numerals
import HireSettle.Workflow.Outcomes
import HireSettle.Workflow.PdfFiles
import HireSettle.Workflow.PdfTokens
import HireSettle.Workflow.Pool
import HireSettle.Workflow.Process
import HireSettle.Workflow.Replays
import HireSettle.Workflow.Rounding
import HireSettle.Workflow.Sequential
import HireSettle.Workflow.Shares
import HireSettle.Workflow.Table
import HireSettle.Workflow.Texts
import HireSettle.Workflow.Traces
import HireSettle.Workflow.Turns
