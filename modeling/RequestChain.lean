import RequestChain.CommandLine
import RequestChain.Dialogue.Schedule
import RequestChain.Gateway
import RequestChain.Http.Framing
import RequestChain.Main
import RequestChain.Proofs.Run.Debug
import RequestChain.Proofs.Run.Isolation
import RequestChain.Proofs.Run.Iteration
import RequestChain.Proofs.Run.Restored
import RequestChain.Proofs.Run.WireForm
import RequestChain.Proofs.Template.Reach
import RequestChain.Proofs.Json.Proper
import RequestChain.Proofs.Report.ReadBack
import RequestChain.Proofs.Authorization
import RequestChain.Proofs.Run.Header
import RequestChain.Proofs.Run.Trace
import RequestChain.Proofs.Json.Standard
import RequestChain.Proofs.Json.StandardWriter
import RequestChain.Proofs.Run.StandardAnswer
import RequestChain.Proofs.Run.Rounds
import RequestChain.Proofs.Template.Pieces
import RequestChain.Proofs.Template.Again
import RequestChain.Proofs.Template.Value
import RequestChain.Proofs.CommandLine
import RequestChain.Proofs.Redaction
import RequestChain.Proofs.Run.Interrupted
import RequestChain.Proofs.Report.Slots
import RequestChain.Proofs.Path.Reach
import RequestChain.Proofs.Path.DocumentOrder
import RequestChain.Proofs.Path.Points
import RequestChain.Proofs.Path.Rooted
import RequestChain.Proofs.Request.Accepted
import RequestChain.Proofs.Run.EntryOrder
import RequestChain.Proofs.Request.Spelling
