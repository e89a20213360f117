import RequestTelemetry.Chain.Activity
import RequestTelemetry.Chain.Stack
import RequestTelemetry.Chain.Stock
import RequestTelemetry.Chain.Timeline
import RequestTelemetry.Duration
import RequestTelemetry.Environment
import RequestTelemetry.Environment.Dotenv
import RequestTelemetry.Http.Headers
import RequestTelemetry.Http.Request
import RequestTelemetry.Http.Response
import RequestTelemetry.Http.Status
import RequestTelemetry.Http.Token
import RequestTelemetry.Http.Uri
import RequestTelemetry.Json.Basic
import RequestTelemetry.Json.Diagnostic
import RequestTelemetry.Json.Number
import RequestTelemetry.Json.Parser
import RequestTelemetry.Json.Pointer
import RequestTelemetry.Json.Printer
import RequestTelemetry.Log
import RequestTelemetry.Mock.Matcher
import RequestTelemetry.Mock.Server
import RequestTelemetry.Mock.Waiting
import RequestTelemetry.Net.Address
import RequestTelemetry.Net.Parser
import RequestTelemetry.Network
import RequestTelemetry.Proofs.Accounting
import RequestTelemetry.Proofs.Background
import RequestTelemetry.Proofs.Journal
import RequestTelemetry.Proofs.Transparency
import RequestTelemetry.Registry
import RequestTelemetry.Server
import RequestTelemetry.Serving
import RequestTelemetry.TestClient
import RequestTelemetry.Text.Alphanumeric
import RequestTelemetry.Text.Blank
import RequestTelemetry.Text.Decimal
import RequestTelemetry.Text.Quoted
import RequestTelemetry.Text.Unprintable
import RequestTelemetry.Text.Utf8
import RequestTelemetry.Tracking.Capture
import RequestTelemetry.Tracking.Config
import RequestTelemetry.Tracking.Delivery
import RequestTelemetry.Tracking.Event
import RequestTelemetry.Tracking.HttpCollector
import RequestTelemetry.Tracking.Identity
import RequestTelemetry.Tracking.Layer
import RequestTelemetry.Tracking.Section
import RequestTelemetry.Tracking.Variables
import RequestTelemetry.Url.Basic
import RequestTelemetry.Url.Form
import RequestTelemetry.Url.Host
import RequestTelemetry.Url.Percent
import RequestTelemetry.Proofs.FormRoundTrip
import RequestTelemetry.Proofs.MockHistory
import RequestTelemetry.Proofs.MockUrl
import RequestTelemetry.Proofs.RequestTarget
import RequestTelemetry.Proofs.CollectorWire
import RequestTelemetry.Proofs.Visits
import RequestTelemetry.Proofs.Composition
import RequestTelemetry.Proofs.EventContent
import RequestTelemetry.Proofs.Outcomes
import RequestTelemetry.Proofs.Deliveries
import RequestTelemetry.Proofs.VariablesRoundTrip
import RequestTelemetry.Proofs.ClientAddress
import RequestTelemetry.Proofs.ServerAccounting
import RequestTelemetry.Proofs.VisitorCookie
import RequestTelemetry.Proofs.TelemetryView
import RequestTelemetry.Proofs.Glimpses
import RequestTelemetry.Proofs.Scripts
import RequestTelemetry.Proofs.Rescheduling
import RequestTelemetry.Proofs.Noninterference
import RequestTelemetry.Proofs.TimeoutResolution
import RequestTelemetry.Proofs.WakeUps
import RequestTelemetry.Proofs.Assignments
import RequestTelemetry.Proofs.SectionSpellings
import RequestTelemetry.Proofs.JsonRoundTrip
import RequestTelemetry.Proofs.PayloadEncoding
import RequestTelemetry.Proofs.CapturedPrefix
import RequestTelemetry.Proofs.Conditions
import RequestTelemetry.Proofs.AddressText
import RequestTelemetry.Proofs.PeerAddress
import RequestTelemetry.Proofs.Gate
import RequestTelemetry.Proofs.Resynchronization
import RequestTelemetry.Proofs.ForwardedList
import RequestTelemetry.Proofs.VariablesInAnyOrder
import RequestTelemetry.Proofs.DotenvEntries
import RequestTelemetry.Proofs.DotenvPrecedence
import RequestTelemetry.Proofs.ByteOrder
import RequestTelemetry.Proofs.RegistryCoherence
