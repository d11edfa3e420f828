import Colloquy.Context.Family
import Colloquy.Main
import Colloquy.Markup.Printer
import Colloquy.Script.Dump
import Colloquy.Proofs.Run.Basic
import Colloquy.Proofs.Run.Handler
import Colloquy.Proofs.Run.Serving
import Colloquy.Proofs.Action.Spelled
import Colloquy.Proofs.Conversation.Continuation
import Colloquy.Proofs.Conversation.Effects
import Colloquy.Proofs.Generation.Calls
import Colloquy.Proofs.Generation.Target
import Colloquy.Proofs.Script.Faults
import Colloquy.Proofs.Script.Steps
import Colloquy.Proofs.Script.Frame
import Colloquy.Proofs.Conversation.Requests
import Colloquy.Proofs.Script.Each
import Colloquy.Proofs.Script.Bindings
import Colloquy.Proofs.Script.Requests
import Colloquy.Proofs.Fragment.Tiling
import Colloquy.Proofs.Fragment.Failures
import Colloquy.Proofs.Script.Erasure
import Colloquy.Proofs.Script.WellFormed
import Colloquy.Proofs.Fragment.Unresolved
import Colloquy.Proofs.Markup.RoundTrip
import Colloquy.Proofs.Schema.Wire
import Colloquy.Proofs.Context.Complete
import Colloquy.Proofs.Fragment.Bare
import Colloquy.Proofs.Fragment.Braced
import Colloquy.Proofs.Fragment.Mentions
import Colloquy.Proofs.Value.Location
import Colloquy.Proofs.Evaluation.Calls
import Colloquy.Proofs.Evaluation.Pipelines
import Colloquy.Proofs.Script.Routes
import Colloquy.Proofs.Schema.Attributes
import Colloquy.Proofs.Outline.Plain
import Colloquy.Proofs.Config.Token
import Colloquy.Proofs.Conversation.Forms
import Colloquy.Proofs.Expr.Coverage
import Colloquy.Proofs.Check.Json
