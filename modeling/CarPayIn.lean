import CarPayIn.Payments.SingleCharge
import CarPayIn.Payments.FailedCharges
import CarPayIn.Payments.Finality
import CarPayIn.Payments.Notified
import CarPayIn.Payments.OneCall
import CarPayIn.Payments.FeeQuotes
import CarPayIn.Payments.EntryNotices
import CarPayIn.Pms.ExitGate
import CarPayIn.Pms.PaidExits
import CarPayIn.Pms.Lifecycle
import CarPayIn.Pms.Retry
import CarPayIn.Pms.Registrations
import CarPayIn.Outbox.LastAttempt
import CarPayIn.Outbox.Fencing
import CarPayIn.Outbox.Publishes
import CarPayIn.App.LateNotices
import CarPayIn.Login.OwnCars
import CarPayIn.Login.VerifiedPlates
import CarPayIn.Payments.NewestCards
import CarPayIn.Payments.WebhookReplays
import CarPayIn.Login.SingleUse
import CarPayIn.Payments.ChargeResults
import CarPayIn.Registration.Announced
import CarPayIn.Payments.IdempotencyKeys
import CarPayIn.Pms.RecordLives
import CarPayIn.Pms.Fees
import CarPayIn.App.History
import CarPayIn.App.AutoRefresh
import CarPayIn.Registration.CardDigits
import CarPayIn.Backend.Signatures
import CarPayIn.Payments.RetryRefinement
import CarPayIn.Tokens.Authenticity
import CarPayIn.Payments.ParkingStays
import CarPayIn.Payments.ChargedFees
import CarPayIn.Payments.PaymentResults
import CarPayIn.Backend.Webhooks
import CarPayIn.Login.RefreshTokens
import CarPayIn.Pms.FeeQueries
import CarPayIn.Webots.BarrierController
import CarPayIn.Login.Polling
