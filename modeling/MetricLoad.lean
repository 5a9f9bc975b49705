import MetricLoad.Balancer
import MetricLoad.Balancer.Refresh
import MetricLoad.Channel
import MetricLoad.CommandLine
import MetricLoad.Decimal.Binary
import MetricLoad.Decimal.Fixed
import MetricLoad.Decimal.Reading
import MetricLoad.Decimal.Scaled
import MetricLoad.Decimal.Shortest
import MetricLoad.Document
import MetricLoad.Document.Fault
import MetricLoad.Duration
import MetricLoad.Duration.Decimal
import MetricLoad.Duration.Text
import MetricLoad.Duration.Unit
import MetricLoad.Http.Base64
import MetricLoad.Http.Encoding
import MetricLoad.Http.Message
import MetricLoad.Http.Options
import MetricLoad.Http.Request
import MetricLoad.Http.Status
import MetricLoad.Instant
import MetricLoad.Json
import MetricLoad.Json.Number
import MetricLoad.Json.Reader
import MetricLoad.Json.Reading
import MetricLoad.Json.Writer
import MetricLoad.Launch
import MetricLoad.Logging.FieldValue
import MetricLoad.Logging.Filter
import MetricLoad.Logging.Level
import MetricLoad.Main
import MetricLoad.Metrics
import MetricLoad.Metrics.Exposition
import MetricLoad.Metrics.Family
import MetricLoad.Metrics.Histogram
import MetricLoad.Metrics.Server
import MetricLoad.Network.Address
import MetricLoad.Network.Discovery
import MetricLoad.Network.Target
import MetricLoad.Pattern
import MetricLoad.Pattern.Class
import MetricLoad.Pattern.Escape
import MetricLoad.Proofs.Query.Selection
import MetricLoad.Proofs.Random.Uniform
import MetricLoad.Proofs.Workload.LabelSets
import MetricLoad.Proofs.Workload.Ticks
import MetricLoad.Query.Client
import MetricLoad.Query.Derivation
import MetricLoad.Query.Dispatch
import MetricLoad.Query.Matcher
import MetricLoad.Query.Response
import MetricLoad.Query.Template
import MetricLoad.Random.Adler
import MetricLoad.Random.ChaCha
import MetricLoad.Random.Source
import MetricLoad.Random.Uniform
import MetricLoad.Random.Xoshiro
import MetricLoad.Ring
import MetricLoad.Ring.Clockwise
import MetricLoad.Ring.Hash
import MetricLoad.Ring.Reading
import MetricLoad.Ring.Report
import MetricLoad.Ring.Reporter
import MetricLoad.Ring.Tokens
import MetricLoad.Schedule
import MetricLoad.Series
import MetricLoad.Settings
import MetricLoad.Settings.Environment
import MetricLoad.Settings.File
import MetricLoad.Settings.Literal
import MetricLoad.Settings.Load
import MetricLoad.Settings.Reading
import MetricLoad.Settings.Schema
import MetricLoad.Settings.Value
import MetricLoad.Setup
import MetricLoad.Text.Blank
import MetricLoad.Text.Digit
import MetricLoad.Text.Hidden
import MetricLoad.Text.Letter
import MetricLoad.Text.Quoted
import MetricLoad.Text.Split
import MetricLoad.Text.Utf8
import MetricLoad.Wire.Body
import MetricLoad.Wire.Field
import MetricLoad.Wire.Snappy
import MetricLoad.Wire.Varint
import MetricLoad.Wire.WriteRequest
import MetricLoad.Workload.Batches
import MetricLoad.Worker
import MetricLoad.Workload.Description
import MetricLoad.Workload.Error
import MetricLoad.Workload.Generator
import MetricLoad.Workload.LabelSets
import MetricLoad.Workload.Options
import MetricLoad.Workload.Reading
import MetricLoad.Workload.Source
import MetricLoad.Workload.StaticLabels
import MetricLoad.Workload.Writing
import MetricLoad.Write.Client
import MetricLoad.Write.Dispatch
import MetricLoad.Yaml.BlockScalar
import MetricLoad.Yaml.Cursor
import MetricLoad.Yaml.Document
import MetricLoad.Yaml.Event
import MetricLoad.Yaml.FlowScalar
import MetricLoad.Yaml.Gap
import MetricLoad.Yaml.Lexer
import MetricLoad.Yaml.Node
import MetricLoad.Yaml.Problem
import MetricLoad.Yaml.Reading
import MetricLoad.Yaml.Scalar
import MetricLoad.Yaml.Tag
import MetricLoad.Yaml.TagText
import MetricLoad.Yaml.Token
import MetricLoad.Proofs.Query.Agreement
import MetricLoad.Proofs.Balancer
import MetricLoad.Proofs.Channel
import MetricLoad.Proofs.Pool
import MetricLoad.Proofs.Write.Dispatch
import MetricLoad.Proofs.Ring.Ownership
import MetricLoad.Proofs.Ring.Walk
import MetricLoad.Proofs.Ring.Lookup
import MetricLoad.Proofs.Ring.Growth
import MetricLoad.Proofs.Workload.Layout
import MetricLoad.Proofs.Workload.Distinct
import MetricLoad.Proofs.Ring.Report
import MetricLoad.Proofs.Balancer.Usage
import MetricLoad.Proofs.Text.Utf8
import MetricLoad.Proofs.Wire.Field
import MetricLoad.Proofs.Wire.Snappy
import MetricLoad.Proofs.Wire.Body
import MetricLoad.Proofs.Metrics
import MetricLoad.Proofs.Setup.Endpoint
import MetricLoad.Proofs.Query.Dispatch
import MetricLoad.Proofs.Write.Counters
import MetricLoad.Proofs.Duration.Text
import MetricLoad.Proofs.Json.Reading
import MetricLoad.Proofs.Workload.Writing
import MetricLoad.Proofs.Random.ChaCha
import MetricLoad.Proofs.Ring.Tokens
import MetricLoad.Proofs.Ring.Generation
import MetricLoad.Proofs.Setup.Requirements
import MetricLoad.Proofs.Balancer.Clients
import MetricLoad.Proofs.Query.Template
import MetricLoad.Proofs.Query.Fault
import MetricLoad.Proofs.Query.Matcher
import MetricLoad.Proofs.Query.Refusal
import MetricLoad.Proofs.Ring.Construction
import MetricLoad.Proofs.Query.Lockstep
import MetricLoad.Proofs.Workload.Values
import MetricLoad.Proofs.Schedule
import MetricLoad.Proofs.Ring.Reporter
import MetricLoad.Proofs.Workload.Batches
import MetricLoad.Proofs.Text.Order
import MetricLoad.Proofs.Ring.Hash
import MetricLoad.Proofs.Ring.LabelOrder
import MetricLoad.Proofs.Ring.Collision
import MetricLoad.Proofs.Wire.Concatenation
import MetricLoad.Proofs.Network.Target
import MetricLoad.Proofs.Text.Lossy
import MetricLoad.Proofs.Write.ErrorMessage
import MetricLoad.Proofs.Metrics.Requests
import MetricLoad.Proofs.Settings.Layers
import MetricLoad.Proofs.Settings.Leaves
import MetricLoad.Proofs.Settings.Precedence
