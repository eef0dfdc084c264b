import WorkloadIdentity.Api.Address
import WorkloadIdentity.Api.Client
import WorkloadIdentity.Api.Exchange
import WorkloadIdentity.Api.Server
import WorkloadIdentity.CommandLine.Arguments
import WorkloadIdentity.CommandLine.LogFilter
import WorkloadIdentity.CommandLine.Printout
import WorkloadIdentity.CommandLine.Socket
import WorkloadIdentity.CommandLine.Start
import WorkloadIdentity.Condition
import WorkloadIdentity.Definition.Catalog
import WorkloadIdentity.Definition.Schema
import WorkloadIdentity.Digest.Fingerprint
import WorkloadIdentity.Digest.Sha256
import WorkloadIdentity.Fault
import WorkloadIdentity.Identity.SpiffeId
import WorkloadIdentity.Identity.TrustDomain
import WorkloadIdentity.Json.Basic
import WorkloadIdentity.Json.Parser
import WorkloadIdentity.Json.Printer
import WorkloadIdentity.Json.Reading
import WorkloadIdentity.Main
import WorkloadIdentity.Manifest.Agent
import WorkloadIdentity.Manifest.Discovery
import WorkloadIdentity.Manifest.Driver
import WorkloadIdentity.Manifest.Frame
import WorkloadIdentity.Manifest.Names
import WorkloadIdentity.Manifest.Parts
import WorkloadIdentity.Manifest.Server
import WorkloadIdentity.Metrics.Basic
import WorkloadIdentity.Metrics.Text
import WorkloadIdentity.Number.Binary64
import WorkloadIdentity.Number.Literal
import WorkloadIdentity.Number.Shortest
import WorkloadIdentity.Object.Access
import WorkloadIdentity.Object.Catalog
import WorkloadIdentity.Object.Configuration
import WorkloadIdentity.Object.Extension
import WorkloadIdentity.Object.Meta
import WorkloadIdentity.Object.Pod
import WorkloadIdentity.Object.Service
import WorkloadIdentity.Object.Shape
import WorkloadIdentity.Object.Workload
import WorkloadIdentity.Operator.Basic
import WorkloadIdentity.Operator.Gate
import WorkloadIdentity.Operator.Resource
import WorkloadIdentity.Operator.Watch
import WorkloadIdentity.Pass.Apply
import WorkloadIdentity.Pass.Manager
import WorkloadIdentity.Pass.Operand
import WorkloadIdentity.Pass.Steps
import WorkloadIdentity.Plan.Basic
import WorkloadIdentity.Plan.Coverage
import WorkloadIdentity.Plan.Kind
import WorkloadIdentity.Plan.Quantity
import WorkloadIdentity.Plan.Template
import WorkloadIdentity.Reconcile.Health
import WorkloadIdentity.Reconcile.Readiness
import WorkloadIdentity.Reconcile.Recorder
import WorkloadIdentity.Reconcile.Retry
import WorkloadIdentity.Settings.Basic
import WorkloadIdentity.Settings.Layer
import WorkloadIdentity.Settings.Load
import WorkloadIdentity.Spec.Agent
import WorkloadIdentity.Spec.Custom
import WorkloadIdentity.Spec.Discovery
import WorkloadIdentity.Spec.Driver
import WorkloadIdentity.Spec.Duration
import WorkloadIdentity.Spec.Issuer
import WorkloadIdentity.Spec.Kind
import WorkloadIdentity.Spec.Manager
import WorkloadIdentity.Spec.Placement
import WorkloadIdentity.Spec.Server
import WorkloadIdentity.StringMap
import WorkloadIdentity.Text.Blank
import WorkloadIdentity.Text.Quoted
import WorkloadIdentity.Text.Timestamp
import WorkloadIdentity.Text.Unprintable
import WorkloadIdentity.Url.Address
import WorkloadIdentity.Url.Basic
import WorkloadIdentity.Url.CaseFold
import WorkloadIdentity.Url.Domain
import WorkloadIdentity.Url.Percent
import WorkloadIdentity.Yaml.Cursor
import WorkloadIdentity.Yaml.Printer
import WorkloadIdentity.Yaml.Reader
import WorkloadIdentity.Yaml.Scalar
import WorkloadIdentity.Yaml.Scanner
import WorkloadIdentity.Yaml.Token
import WorkloadIdentity.Proofs.Addresses
import WorkloadIdentity.Proofs.Aggregation
import WorkloadIdentity.Proofs.Agreement
import WorkloadIdentity.Proofs.Answers
import WorkloadIdentity.Proofs.Applying
import WorkloadIdentity.Proofs.Approval
import WorkloadIdentity.Proofs.Asking
import WorkloadIdentity.Proofs.Attempts
import WorkloadIdentity.Proofs.Bindings
import WorkloadIdentity.Proofs.Bookkeeping
import WorkloadIdentity.Proofs.Canonical
import WorkloadIdentity.Proofs.Collisions
import WorkloadIdentity.Proofs.Completion
import WorkloadIdentity.Proofs.Concurrency
import WorkloadIdentity.Proofs.Convergence
import WorkloadIdentity.Proofs.Course
import WorkloadIdentity.Proofs.Coverage
import WorkloadIdentity.Proofs.CreateOnly
import WorkloadIdentity.Proofs.Depths
import WorkloadIdentity.Proofs.Drift
import WorkloadIdentity.Proofs.Driving
import WorkloadIdentity.Proofs.Durations
import WorkloadIdentity.Proofs.Histories
import WorkloadIdentity.Proofs.Holdings
import WorkloadIdentity.Proofs.Identities
import WorkloadIdentity.Proofs.Indifference
import WorkloadIdentity.Proofs.Layers
import WorkloadIdentity.Proofs.Leftovers
import WorkloadIdentity.Proofs.Manifests
import WorkloadIdentity.Proofs.Maps
import WorkloadIdentity.Proofs.Members
import WorkloadIdentity.Proofs.Metadata
import WorkloadIdentity.Proofs.Normal
import WorkloadIdentity.Proofs.Notes
import WorkloadIdentity.Proofs.Numerals
import WorkloadIdentity.Proofs.Orders
import WorkloadIdentity.Proofs.Outcomes
import WorkloadIdentity.Proofs.Overrides
import WorkloadIdentity.Proofs.Overview
import WorkloadIdentity.Proofs.Ownership
import WorkloadIdentity.Proofs.Patching
import WorkloadIdentity.Proofs.Places
import WorkloadIdentity.Proofs.Probing
import WorkloadIdentity.Proofs.Quiescence
import WorkloadIdentity.Proofs.Reading
import WorkloadIdentity.Proofs.Rendering
import WorkloadIdentity.Proofs.Requests
import WorkloadIdentity.Proofs.Rereading
import WorkloadIdentity.Proofs.Retention
import WorkloadIdentity.Proofs.Retries
import WorkloadIdentity.Proofs.Rollout
import WorkloadIdentity.Proofs.RoundTrips
import WorkloadIdentity.Proofs.Segments
import WorkloadIdentity.Proofs.Sending
import WorkloadIdentity.Proofs.Sequences
import WorkloadIdentity.Proofs.Settling
import WorkloadIdentity.Proofs.Sources
import WorkloadIdentity.Proofs.Spellings
import WorkloadIdentity.Proofs.Stability
import WorkloadIdentity.Proofs.Standstill
import WorkloadIdentity.Proofs.Status
import WorkloadIdentity.Proofs.Stored
import WorkloadIdentity.Proofs.StoredPods
import WorkloadIdentity.Proofs.Telling
import WorkloadIdentity.Proofs.Texts
import WorkloadIdentity.Proofs.Timestamps
import WorkloadIdentity.Proofs.UrlPaths
import WorkloadIdentity.Proofs.UrlReading
import WorkloadIdentity.Proofs.Verbatim
import WorkloadIdentity.Proofs.Verdicts
import WorkloadIdentity.Proofs.Laying
import WorkloadIdentity.Proofs.Loading
