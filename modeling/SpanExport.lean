import SpanExport.Application.Setup
import SpanExport.Main
import SpanExport.Proofs.Application.Atomicity
import SpanExport.Proofs.Application.Transparency
import SpanExport.Proofs.CommandLine.Channels
import SpanExport.Proofs.CommandLine.Cleanup
import SpanExport.Proofs.CommandLine.Delivered
import SpanExport.Proofs.CommandLine.ExitCode
import SpanExport.Proofs.Delivery.Batch
import SpanExport.Proofs.Delivery.Forgery
import SpanExport.Proofs.Delivery.LastWriter
import SpanExport.Proofs.Delivery.Lifecycle
import SpanExport.Proofs.Delivery.Offer
import SpanExport.Proofs.Event.TraceGraph
import SpanExport.Proofs.Sampling.Agreement
import SpanExport.Proofs.Tracing.Lifelines
import SpanExport.Proofs.Tracing.Routing
import SpanExport.Proofs.Tracing.Service
import SpanExport.Proofs.Tracing.Sessions
import SpanExport.Proofs.Tracing.Shutdown
import SpanExport.Proofs.Time.Calendar
import SpanExport.Proofs.Time.Conversion
import SpanExport.Proofs.Number.Padded
import SpanExport.Proofs.Time.Order
import SpanExport.Proofs.Event.TimestampField
import SpanExport.Proofs.CommandLine.Merging
import SpanExport.Proofs.Number.Overflow
import SpanExport.Proofs.Value.Writable
import SpanExport.Proofs.Delivery.Losses
import SpanExport.Proofs.Number.Integer
import SpanExport.Proofs.Value.Mapping
import SpanExport.Proofs.CommandLine.AttributeTexts
import SpanExport.Proofs.CommandLine.TypedAttributes
import SpanExport.Proofs.Number.Closest
import SpanExport.Proofs.Delivery.Weights
import SpanExport.Proofs.Time.Milliseconds
import SpanExport.Proofs.Event.FixedWidth
import SpanExport.Proofs.Value.Normalized
import SpanExport.Proofs.Text.WellFormed
import SpanExport.Proofs.Text.Decoding
