import PaymentGateway.App
import PaymentGateway.Event.Audit
import PaymentGateway.Main
import PaymentGateway.Vault
import PaymentGateway.Proofs.Registry.Tables
import PaymentGateway.Proofs.Registry.History
import PaymentGateway.Proofs.Handshake.Session
import PaymentGateway.Proofs.Handshake.Resolution
import PaymentGateway.Proofs.Sandbox.Session
import PaymentGateway.Proofs.Sandbox.Challenge
import PaymentGateway.Proofs.Registry.Relabelling
import PaymentGateway.Proofs.Handshake.Failure
import PaymentGateway.Proofs.Sandbox.Agreement
import PaymentGateway.Proofs.Handshake.Secrecy
import PaymentGateway.Proofs.Handshake.Blindness
import PaymentGateway.Proofs.Handshake.Interleaving
import PaymentGateway.Proofs.Gateway.Effects
import PaymentGateway.Proofs.Text.Utf8
import PaymentGateway.Proofs.Json.Spelling
import PaymentGateway.Proofs.Json.RoundTrip
import PaymentGateway.Proofs.Number.Digits
import PaymentGateway.Proofs.Time.Calendar
import PaymentGateway.Proofs.Time.Moment
import PaymentGateway.Proofs.Event.RoundTrip
import PaymentGateway.Proofs.Handshake.Publication
import PaymentGateway.Proofs.Event.AuditTrail
import PaymentGateway.Proofs.Handshake.Forgetting
import PaymentGateway.Proofs.Handshake.PublisherFaults
import PaymentGateway.Proofs.Fault.Tree
import PaymentGateway.Proofs.Gateway.BestEffortAttach
import PaymentGateway.Proofs.Json.Literal
import PaymentGateway.Proofs.Json.Layout
import PaymentGateway.Proofs.Gateway.SecretOverHttp
import PaymentGateway.Proofs.Handshake.Renewal
import PaymentGateway.Proofs.Handshake.Commutation
import PaymentGateway.Proofs.Number.Dyadic
import PaymentGateway.Proofs.Number.Nearest
import PaymentGateway.Proofs.Handshake.Amounts
import PaymentGateway.Proofs.Json.Numeral
import PaymentGateway.Proofs.Gateway.AmountOverHttp
import PaymentGateway.Proofs.Sandbox.Operations
import PaymentGateway.Proofs.Fault.First
import PaymentGateway.Proofs.Gateway.FaultMapping
import PaymentGateway.Proofs.Handshake.Recency
import PaymentGateway.Proofs.Registry.Sweeping
import PaymentGateway.Proofs.Registry.Lifetime
import PaymentGateway.Proofs.Event.LineBreaks
import PaymentGateway.Proofs.Url.Form
import PaymentGateway.Proofs.Stripe.Requests
import PaymentGateway.Proofs.Time.DayCount
import PaymentGateway.Proofs.Time.Stamp
import PaymentGateway.Proofs.Event.Timestamps
import PaymentGateway.Proofs.Json.FirstValue
import PaymentGateway.Proofs.Gateway.BodyLimit
import PaymentGateway.Proofs.Text.CaseWidth
import PaymentGateway.Proofs.Sandbox.Currency
import PaymentGateway.Proofs.Text.Trimming
import PaymentGateway.Proofs.Vault.Completeness
import PaymentGateway.Proofs.Number.Signed
import PaymentGateway.Proofs.Time.Duration
import PaymentGateway.Proofs.Settings.Loading
import PaymentGateway.Proofs.Settings.TimeToLive
import PaymentGateway.Proofs.Text.Listing
import PaymentGateway.Proofs.Url.Parts
import PaymentGateway.Proofs.Telemetry.Endpoints
import PaymentGateway.Proofs.Gateway.Redirects
