import CloudStudio.Accounts.FeeSchedule
import CloudStudio.Accounts.KeyHistory
import CloudStudio.Admin.Identifiers
import CloudStudio.Admin.Reconciliation
import CloudStudio.Admin.Staff
import CloudStudio.Auth.Lockout
import CloudStudio.Billing.Simulation
import CloudStudio.Payments.Client
import CloudStudio.Payments.Coverage
import CloudStudio.Payments.Currencies
import CloudStudio.Payments.ExactlyOnce
import CloudStudio.Payments.Forgery
import CloudStudio.Payments.NetCredit
import CloudStudio.Payments.NetEffect
import CloudStudio.Payments.OrderFree
import CloudStudio.Payments.SharedRail
import CloudStudio.Payments.StatusHistory
import CloudStudio.Payouts.AllOrNothing
import CloudStudio.Payouts.Authorisation
import CloudStudio.Payouts.BatchPrice
import CloudStudio.Payouts.BatchRaces
import CloudStudio.Payouts.Duplicates
import CloudStudio.Payouts.Links
import CloudStudio.Payouts.Minimum
import CloudStudio.Payouts.PhoneNumbers
import CloudStudio.Payouts.Polling
import CloudStudio.Payouts.Previews
import CloudStudio.Payouts.RefundTotal
import CloudStudio.Payouts.Refunds
import CloudStudio.Payouts.Requests
import CloudStudio.Payouts.ServiceBooks
import CloudStudio.Payouts.SettlementAccounts
import CloudStudio.Payouts.Submissions
import CloudStudio.Payouts.SweepDay
import CloudStudio.Platform.ReferenceScheme
import CloudStudio.Queue.Cron
import CloudStudio.Queue.Polling
import CloudStudio.Queue.Progress
import CloudStudio.Queue.Spacing
import CloudStudio.Queue.Stranded
import CloudStudio.Sms.Charges
import CloudStudio.Sms.Once
import CloudStudio.Sms.ReportRaces
import CloudStudio.Tenancy.Isolation
import CloudStudio.Wallets.AuditTrail
import CloudStudio.Wallets.Freezing
import CloudStudio.Wallets.Listings
import CloudStudio.Wallets.Sequential
import CloudStudio.Webhooks.Retries
