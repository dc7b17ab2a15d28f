import ReflectCalc.Main
import ReflectCalc.Proofs.Command.Rendering
import ReflectCalc.Proofs.Engine.Stages
import ReflectCalc.Proofs.Engine.Activations
import ReflectCalc.Proofs.Engine.AllowList
import ReflectCalc.Proofs.Engine.Answer
import ReflectCalc.Proofs.Http.Form
import ReflectCalc.Proofs.Http.Head
import ReflectCalc.Proofs.Http.Request
import ReflectCalc.Proofs.Http.Response
import ReflectCalc.Proofs.Service.Forwarder
import ReflectCalc.Proofs.Service.Transparency
import ReflectCalc.Proofs.Http.Fields
import ReflectCalc.Proofs.Http.HeadText
import ReflectCalc.Proofs.Catalog.History
import ReflectCalc.Proofs.Net.Listener
import ReflectCalc.Proofs.Service.Lifecycle
import ReflectCalc.Proofs.Service.Shutdown
import ReflectCalc.Proofs.Net.Broadcast
import ReflectCalc.Proofs.Http.ResponseReader
import ReflectCalc.Proofs.Http.CutReply
import ReflectCalc.Proofs.Service.CutReply
import ReflectCalc.Proofs.Http.ReplyText
import ReflectCalc.Proofs.Number.Grammar
import ReflectCalc.Proofs.Command.Rejoin
import ReflectCalc.Proofs.Engine.QuotedValues
import ReflectCalc.Proofs.Number.Rounding
import ReflectCalc.Proofs.Number.Shortest
import ReflectCalc.Proofs.Number.ToText
import ReflectCalc.Proofs.Number.Order
import ReflectCalc.Proofs.Builtin.Compare
import ReflectCalc.Proofs.Number.Nearest
import ReflectCalc.Proofs.Engine.FirstFailure
import ReflectCalc.Proofs.Builtin.Arithmetic
import ReflectCalc.Proofs.Builtin.ParseInt
import ReflectCalc.Proofs.Builtin.Typing
import ReflectCalc.Proofs.Http.Decoded
import ReflectCalc.Proofs.Http.Bound
import ReflectCalc.Proofs.Http.Query
import ReflectCalc.Proofs.Config.Errors
import ReflectCalc.Proofs.Number.Canonical
import ReflectCalc.Proofs.Builtin.Numerals
import ReflectCalc.Proofs.Service.Startup
import ReflectCalc.Proofs.Net.Tracker
