import CoinListener.Foundation.Apart
import CoinListener.Foundation.Broadcast
import CoinListener.Foundation.Crew
import CoinListener.Foundation.Given
import CoinListener.Foundation.Js
import CoinListener.Foundation.Json
import CoinListener.Foundation.JsonText
import CoinListener.Foundation.Numeral
import CoinListener.Foundation.OneTransaction
import CoinListener.Foundation.Parts
import CoinListener.Foundation.Program
import CoinListener.Foundation.Recording
import CoinListener.Foundation.Redact
import CoinListener.Foundation.Replace
import CoinListener.Foundation.Select
import CoinListener.Foundation.Sha256
import CoinListener.Foundation.Slices
import CoinListener.Foundation.Table
import CoinListener.Foundation.Text
import CoinListener.Foundation.Transaction
import CoinListener.Foundation.Undisturbed
import CoinListener.Foundation.Utf8
import CoinListener.Foundation.Words
import CoinListener.Core.Common
import CoinListener.Core.Models
import CoinListener.Core.PlainFormats
import CoinListener.Core.ProxyUrl
import CoinListener.Core.Wire
import CoinListener.Providers.Amounts
import CoinListener.Providers.Btc
import CoinListener.Providers.BtcTransfers
import CoinListener.Providers.Decimal
import CoinListener.Providers.Evm
import CoinListener.Providers.EvmRescan
import CoinListener.Providers.Failures
import CoinListener.Providers.Topics
import CoinListener.Providers.Tron
import CoinListener.Storage.AddressImports
import CoinListener.Storage.AddressScans
import CoinListener.Storage.AddressSpelling
import CoinListener.Storage.AddressWrites
import CoinListener.Storage.Addresses
import CoinListener.Storage.Custody
import CoinListener.Storage.CustodyAddresses
import CoinListener.Storage.CustodyCalls
import CoinListener.Storage.CustodyCapacity
import CoinListener.Storage.CustodyEnsures
import CoinListener.Storage.CustodyErrors
import CoinListener.Storage.CustodyFacts
import CoinListener.Storage.CustodyOrder
import CoinListener.Storage.CustodyPool
import CoinListener.Storage.CustodyRuns
import CoinListener.Storage.CustodyStatements
import CoinListener.Storage.CustodySteps
import CoinListener.Storage.CustodyWatching
import CoinListener.Storage.Deliveries
import CoinListener.Storage.DeliveryAttempts
import CoinListener.Storage.DeliveryRace
import CoinListener.Storage.ErrorTexts
import CoinListener.Storage.EventIdentities
import CoinListener.Storage.EventRace
import CoinListener.Storage.Events
import CoinListener.Storage.ImportDuplicates
import CoinListener.Storage.ImportSteps
import CoinListener.Storage.JobQueue
import CoinListener.Storage.Outbox
import CoinListener.Storage.ProviderHealth
import CoinListener.Storage.RetryOnce
import CoinListener.Storage.Scan
import CoinListener.Storage.ScanJobSteps
import CoinListener.Storage.ScanJobs
import CoinListener.Storage.ScanQueue
import CoinListener.Storage.ScanRetry
import CoinListener.Storage.TelegramBindings
import CoinListener.Storage.TelegramBots
import CoinListener.Storage.WatchedFrame
import CoinListener.Scheduler.Matched
import CoinListener.Scheduler.Schedule
import CoinListener.Scheduler.ScheduleRuns
import CoinListener.Scheduler.Slots
import CoinListener.Scheduler.Tick
import CoinListener.Worker.AddressHistory
import CoinListener.Worker.AddressImports
import CoinListener.Worker.AttemptCount
import CoinListener.Worker.BalanceHeights
import CoinListener.Worker.BalanceHistory
import CoinListener.Worker.BlockRanges
import CoinListener.Worker.BtcCoverage
import CoinListener.Worker.BtcHistory
import CoinListener.Worker.BtcScan
import CoinListener.Worker.EvmCoverage
import CoinListener.Worker.EvmScan
import CoinListener.Worker.Hosts
import CoinListener.Worker.ImportCounts
import CoinListener.Worker.ImportedAddresses
import CoinListener.Worker.JobAttempts
import CoinListener.Worker.NextStart
import CoinListener.Worker.ProviderLoop
import CoinListener.Worker.RunAudit
import CoinListener.Worker.RunHistory
import CoinListener.Worker.ScanAddress
import CoinListener.Worker.ScanLoop
import CoinListener.Worker.ScanOrder
import CoinListener.Worker.Statement
import CoinListener.Worker.TronCoverage
import CoinListener.Worker.TronCursor
import CoinListener.Worker.TronIdentity
import CoinListener.Worker.TronScan
import CoinListener.Worker.WakeUp
import CoinListener.Notifier.Aging
import CoinListener.Notifier.AttemptLimit
import CoinListener.Notifier.Batch
import CoinListener.Notifier.BindingRace
import CoinListener.Notifier.BindingWords
import CoinListener.Notifier.Delivered
import CoinListener.Notifier.Dispatch
import CoinListener.Notifier.External
import CoinListener.Notifier.Handling
import CoinListener.Notifier.Matches
import CoinListener.Notifier.MinimumAmount
import CoinListener.Notifier.NextOffset
import CoinListener.Notifier.Ownership
import CoinListener.Notifier.ProviderResponses
import CoinListener.Notifier.Recorded
import CoinListener.Notifier.Redaction
import CoinListener.Notifier.Repeats
import CoinListener.Notifier.Rules
import CoinListener.Notifier.Telegram
import CoinListener.Notifier.TelegramBinding
import CoinListener.Notifier.TelegramUpdates
import CoinListener.Notifier.TokenPreview
import CoinListener.Notifier.TokenRedaction
import CoinListener.Notifier.UpdateOffsets
import CoinListener.Notifier.UpdatePoller
import CoinListener.Notifier.Workers
import CoinListener.Api.EvmRescan
import CoinListener.Api.NotificationSettings
import CoinListener.Api.Realtime
import CoinListener.Api.RealtimeDelivery
import CoinListener.Api.RealtimeMessages
import CoinListener.Api.Renderings
import CoinListener.Api.RescanRecords
import CoinListener.Api.RescanTransfers
import CoinListener.Api.TelegramVerification
import CoinListener.Api.TenantRows
import CoinListener.Api.TenantsApart
import CoinListener.Frontend.AddressImport
import CoinListener.Frontend.ConnectionRuns
import CoinListener.Frontend.RealtimeConnection
import CoinListener.Frontend.RealtimeMessages
import CoinListener.Frontend.Session
import CoinListener.Frontend.SessionRuns
