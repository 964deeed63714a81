import BenefitCasework.Text.Blank
import BenefitCasework.Text.Digits
import BenefitCasework.Text.Hex
import BenefitCasework.Text.Base64
import BenefitCasework.Digest.Sha256
import BenefitCasework.Digest.Hmac
import BenefitCasework.Number.Shortest
import BenefitCasework.Text.Quoted
import BenefitCasework.Json.Writer
import BenefitCasework.Json.Reader
import BenefitCasework.Json.Form
import BenefitCasework.Identifier
import BenefitCasework.Calendar.Written
import BenefitCasework.Actor
import BenefitCasework.Person
import BenefitCasework.Status
import BenefitCasework.Route
import BenefitCasework.Document
import BenefitCasework.Payment
import BenefitCasework.Pendency
import BenefitCasework.Request.Permission
import BenefitCasework.Request.Snapshot
import BenefitCasework.Request.Lifecycle
import BenefitCasework.Envelope
import BenefitCasework.Metric
import BenefitCasework.Audit.Recorder
import BenefitCasework.Desk
import BenefitCasework.Settings
import BenefitCasework.Delivery.Relay
import BenefitCasework.Effect.Scenario
import BenefitCasework.Effect.Tracking
import BenefitCasework.Notice.Courier
import BenefitCasework.Timeline.Schedule
import BenefitCasework.Effect.Script
import BenefitCasework.Service.Turns
import BenefitCasework.Fault.Named
import BenefitCasework.Request.Summary
import BenefitCasework.Request.Order
import BenefitCasework.Opening
import BenefitCasework.Delivery.PolicyRecord
import BenefitCasework.Envelope.Plain
import BenefitCasework.Service.Report
import BenefitCasework.Forms
import BenefitCasework.Proofs.Request.Gates
import BenefitCasework.Proofs.Delivery.RelayOrder
import BenefitCasework.Proofs.Audit.Recording
import BenefitCasework.Proofs.Desk.Serving
import BenefitCasework.Proofs.Desk.Versions
import BenefitCasework.Proofs.Request.Announcements
import BenefitCasework.Proofs.Notice.Dispatch
import BenefitCasework.Proofs.Audit.Differences
import BenefitCasework.Proofs.Desk.Trail
import BenefitCasework.Proofs.Calendar.DateText
import BenefitCasework.Proofs.Envelope.RoundTrip
import BenefitCasework.Proofs.Desk.Announcing
import BenefitCasework.Proofs.Delivery.Reading
import BenefitCasework.Proofs.Effect.Running
import BenefitCasework.Proofs.Notice.Retelling
import BenefitCasework.Proofs.Notice.Handing
import BenefitCasework.Proofs.Service.Rearranging
import BenefitCasework.Proofs.Service.Journey
import BenefitCasework.Proofs.Service.Turning
import BenefitCasework.Proofs.Service.Telling
import BenefitCasework.Proofs.Request.Walk
import BenefitCasework.Proofs.Request.Refusing
import BenefitCasework.Proofs.Calendar.InstantText
import BenefitCasework.Proofs.Audit.Canonical
import BenefitCasework.Proofs.Audit.Chain
import BenefitCasework.Proofs.Audit.Custody
import BenefitCasework.Proofs.Request.Paying
import BenefitCasework.Proofs.Request.Settling
import BenefitCasework.Proofs.Delivery.Blocking
import BenefitCasework.Proofs.Delivery.Recovery
import BenefitCasework.Proofs.Audit.Selections
import BenefitCasework.Proofs.Desk.Independence
import BenefitCasework.Proofs.Permission.Privileges
import BenefitCasework.Proofs.Request.Provenance
import BenefitCasework.Proofs.Request.Submitting
import BenefitCasework.Proofs.Audit.Signatures
import BenefitCasework.Proofs.Delivery.Configured
import BenefitCasework.Proofs.Request.Pinning
import BenefitCasework.Proofs.Effect.Waiting
import BenefitCasework.Proofs.Effect.Turning
import BenefitCasework.Proofs.Delivery.Tries
