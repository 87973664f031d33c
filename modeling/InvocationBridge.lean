import InvocationBridge.Base64
import InvocationBridge.Bytes
import InvocationBridge.CommandLine
import InvocationBridge.Effect.Basic
import InvocationBridge.Effect.Log
import InvocationBridge.Event.Catalog
import InvocationBridge.Event.TypeName
import InvocationBridge.Fields
import InvocationBridge.Function.Deployment
import InvocationBridge.Function.Settings
import InvocationBridge.Http.Header
import InvocationBridge.Http.Method
import InvocationBridge.Http.Status
import InvocationBridge.Json.Basic
import InvocationBridge.Json.Codec
import InvocationBridge.Json.Decimal
import InvocationBridge.Json.Error
import InvocationBridge.Json.Printer
import InvocationBridge.Json.Reader.Fault
import InvocationBridge.Json.Reader.Number
import InvocationBridge.Json.Reader.Skip
import InvocationBridge.Json.Reader.Text
import InvocationBridge.Json.Reader.Typed
import InvocationBridge.Json.Reader.Value
import InvocationBridge.Main
import InvocationBridge.Message.Basic
import InvocationBridge.Message.Context
import InvocationBridge.Message.Intake
import InvocationBridge.Message.Reply
import InvocationBridge.PetStore.Pet
import InvocationBridge.PetStore.Routes
import InvocationBridge.Text.Blank
import InvocationBridge.Text.Hex
import InvocationBridge.Text.Numeral
import InvocationBridge.Text.Quoted
import InvocationBridge.Text.Split
import InvocationBridge.Text.Unseen
import InvocationBridge.Uuid
import InvocationBridge.Web.Application
import InvocationBridge.Web.Dispatcher
import InvocationBridge.Web.Failure
import InvocationBridge.Web.GatewayEvent
import InvocationBridge.Web.Path
import InvocationBridge.Web.Request
import InvocationBridge.Web.Response
import InvocationBridge.Web.Router
import InvocationBridge.Proofs.Web.Serving
import InvocationBridge.Proofs.Web.Recovery
import InvocationBridge.Proofs.Except
import InvocationBridge.Proofs.Utf8
import InvocationBridge.Proofs.Json.Text
import InvocationBridge.Proofs.Json.Number
import InvocationBridge.Proofs.Json.Value
import InvocationBridge.Proofs.Json.Ordered
import InvocationBridge.Proofs.Message.Encoding
import InvocationBridge.Proofs.Message.Envelope
import InvocationBridge.Proofs.Message.Intake
import InvocationBridge.Proofs.Message.Markers
import InvocationBridge.Proofs.Function.Answer
import InvocationBridge.Proofs.Web.FirstFailure
import InvocationBridge.Proofs.Web.LifeCycle
import InvocationBridge.Proofs.Web.Segments
import InvocationBridge.Proofs.Web.Resolution
import InvocationBridge.Proofs.Function.EventPost
import InvocationBridge.Proofs.Web.EventFormats
import InvocationBridge.Proofs.Function.SameAnswer
import InvocationBridge.Proofs.Function.TurnedAway
import InvocationBridge.Proofs.Json.RoundTrip
import InvocationBridge.Proofs.PetStore.Events
import InvocationBridge.Proofs.Function.EntryPoints
import InvocationBridge.Proofs.Web.FailureStatus
import InvocationBridge.Proofs.Base64
import InvocationBridge.Proofs.Web.Composition
import InvocationBridge.Proofs.Http
import InvocationBridge.Proofs.Web.EventSettings
import InvocationBridge.Proofs.Web.Acceptance
import InvocationBridge.Proofs.PetStore.Outcomes
import InvocationBridge.Proofs.Function.Outcomes
import InvocationBridge.Proofs.Web.EventBodies
import InvocationBridge.Proofs.Numeral
import InvocationBridge.Proofs.Web.Patterns
import InvocationBridge.Proofs.Web.Unambiguous
import InvocationBridge.Proofs.PetStore.RouteTable
import InvocationBridge.Proofs.PetStore.Pages
import InvocationBridge.Proofs.Event.TypeNames
import InvocationBridge.Proofs.Function.EventSummary
import InvocationBridge.Proofs.Message.StatusHeader
import InvocationBridge.Proofs.Message.Echo
import InvocationBridge.Proofs.Message.Context
import InvocationBridge.Proofs.Web.Replay
import InvocationBridge.Proofs.Hex
import InvocationBridge.Proofs.Uuid
import InvocationBridge.Proofs.PetStore.PetText
import InvocationBridge.Proofs.PetStore.Visits
import InvocationBridge.Proofs.PetStore.Welcomes
