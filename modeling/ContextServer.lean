import ContextServer.CommandLine.Arguments
import ContextServer.Demo
import ContextServer.Http.Service
import ContextServer.Main
import ContextServer.Payload.Catalogue
import ContextServer.Proofs.Dict
import ContextServer.Proofs.Json.RoundTrip
import ContextServer.Proofs.Message.Grammar
import ContextServer.Proofs.Text.Framing
import ContextServer.Proofs.Message.RoundTrip
import ContextServer.Proofs.Server.Recall
import ContextServer.Proofs.Server.Effect
import ContextServer.Proofs.Host.Run
import ContextServer.Proofs.Host.Frame
import ContextServer.Proofs.Server.Answer
import ContextServer.Proofs.Server.Dispatch
import ContextServer.Proofs.Server.Subscriptions
import ContextServer.Proofs.Host.Effect
import ContextServer.Proofs.Host.Move
import ContextServer.Proofs.Host.Handshake
import ContextServer.Proofs.Host.Reply
import ContextServer.Proofs.Stdio.ReadLoop
import ContextServer.Proofs.Host.Lifecycle
import ContextServer.Proofs.Http.Run
import ContextServer.Proofs.Host.Isolation
import ContextServer.Proofs.Host.Waits
import ContextServer.Proofs.Host.Ledger
import ContextServer.Proofs.Host.Subscribers
import ContextServer.Proofs.Host.Admission
import ContextServer.Proofs.Host.Late
import ContextServer.Proofs.Http.Interleaving
import ContextServer.Proofs.Message.Response
import ContextServer.Proofs.Host.Shutdown
import ContextServer.Proofs.Http.Ending
import ContextServer.Proofs.Transports
import ContextServer.Proofs.UriTemplate.Filling
import ContextServer.Proofs.Stdio.Framing
import ContextServer.Proofs.Payload
import ContextServer.Proofs.Announcements
import ContextServer.Proofs.Server.Reading
import ContextServer.Proofs.Host.Components
import ContextServer.Proofs.Http.Posting
import ContextServer.Proofs.ToolSchema
import ContextServer.Proofs.Text.OnePass
import ContextServer.Proofs.UriTemplate.Rounds
import ContextServer.Proofs.Host.Logging
