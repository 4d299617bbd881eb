import ProxyPay.Escrow.SinglePayout
import ProxyPay.Escrow.Release
import ProxyPay.Escrow.Windows
import ProxyPay.Htlc.Settlement
import ProxyPay.Queue.Status
import ProxyPay.Queue.Redelivery
import ProxyPay.MobileMoney.Failover
import ProxyPay.MobileMoney.BatchTruth
import ProxyPay.Webhook.Probe
import ProxyPay.Vaults.Conservation
import ProxyPay.Channels.Exclusivity
import ProxyPay.Recovery.Interleaving
import ProxyPay.Recovery.Rotation
import ProxyPay.Ledger.Pages
import ProxyPay.BatchWorker.PaidOnce
import ProxyPay.Idempotency.Provenance
import ProxyPay.Callbacks.Outcomes
import ProxyPay.Transactions.Statuses
import ProxyPay.Transactions.Records
import ProxyPay.BatchWorker.Accounts
import ProxyPay.Encryption.UserFields
import ProxyPay.Encryption.Rotation
import ProxyPay.Limits.Concurrency
import ProxyPay.Settlement.Chain
import ProxyPay.Disputes.Agreement
import ProxyPay.Splits.AllOrNothing
import ProxyPay.Webhook.Delivery
import ProxyPay.Caching.Coherence
import ProxyPay.Channels.Payment
import ProxyPay.FeeBumps.PaidOnce
import ProxyPay.Auth.Soundness
import ProxyPay.Auth.Rotation
import ProxyPay.Htlc.Client
import ProxyPay.FeeBumpRecovery.Attempts
import ProxyPay.AssetWorkflow.Issuance
import ProxyPay.SessionQueue.Order
import ProxyPay.ProviderThrottle.Conservation
import ProxyPay.Sep31Payouts.Attempts
import ProxyPay.MakerChecker.FourEyes
import ProxyPay.PaymentLinks.OneTime
import ProxyPay.Airtel.Keys
import ProxyPay.AccountMerge.Safety
import ProxyPay.SecondFactor.BackupCodes
import ProxyPay.Auth.Grace
import ProxyPay.BridgePayouts.Records
import ProxyPay.Ledger.Balances
import ProxyPay.Splits.Proportions
import ProxyPay.Channels.Sequences
import ProxyPay.TransactionFilters.Whitelist
import ProxyPay.FeeStrategies.Calculation
import ProxyPay.Reconciliation.Amounts
import ProxyPay.TransactionFilters.Import
import ProxyPay.Callbacks.Index
import ProxyPay.Transactions.Metadata
import ProxyPay.TransactionList.Agreement
import ProxyPay.TransactionList.Pages
import ProxyPay.BatchWorker.Tokens
import ProxyPay.RateLimits.SlidingWindow
import ProxyPay.Sep38.Quotes
import ProxyPay.ExchangeRates.Buffers
import ProxyPay.Multisig.Validation
import ProxyPay.Fees.Calculators
import ProxyPay.Currency.BankersRounding
import ProxyPay.Ledger.Reconciliation
import ProxyPay.Notifications.Deduplication
import ProxyPay.Invoices.Summary
import ProxyPay.ProviderBalances.Freshness
import ProxyPay.TransactionStream.Delta
import ProxyPay.HorizonPool.Failover
import ProxyPay.Retention.Purge
import ProxyPay.CsvExport.Lines
import ProxyPay.Liquidity.Transfers
