import Courier.Bytes
import Courier.Cipher.Aes
import Courier.Cipher.Gcm
import Courier.Cli.Arguments
import Courier.Cli.Plan
import Courier.Cli.Run
import Courier.Cli.Usage
import Courier.Client.Communicator
import Courier.Client.Contact
import Courier.Client.Error
import Courier.Client.Executor
import Courier.Client.Network
import Courier.Client.Session
import Courier.Client.Settings
import Courier.Client.Transfer
import Courier.Client.Wire
import Courier.Digest.Blocks
import Courier.Digest.Md5
import Courier.Digest.Sha256
import Courier.Digest.Sha512
import Courier.Dispatch.LogQuery
import Courier.Dispatch.Registry
import Courier.Envelope.Answer
import Courier.Envelope.Command
import Courier.Envelope.Error
import Courier.Envelope.Line
import Courier.File.Download
import Courier.File.Name
import Courier.File.Temporary
import Courier.File.Upload
import Courier.File.View
import Courier.Host.Files
import Courier.Host.Sockets
import Courier.Http.Form
import Courier.Http.Message
import Courier.Http.Path
import Courier.IoError
import Courier.Json.Document
import Courier.Json.Printer
import Courier.Json.Record
import Courier.Json.Token
import Courier.Json.Value
import Courier.Json5.Document
import Courier.Json5.Number
import Courier.Key.Curve
import Courier.Key.Modular
import Courier.Key.Primes
import Courier.Key.Twisted
import Courier.Link
import Courier.Link.History
import Courier.Log.Buffer
import Courier.Log.Event
import Courier.Log.Record
import Courier.Main
import Courier.Number.Decimal
import Courier.Number.Double
import Courier.Number.Shortest
import Courier.Proofs.Envelope.Complaint
import Courier.Proofs.Envelope.Document
import Courier.Proofs.Envelope.Fields
import Courier.Proofs.Envelope.Line
import Courier.Proofs.Envelope.Readable
import Courier.Proofs.Envelope.Received
import Courier.Proofs.Envelope.RoundTrip
import Courier.Proofs.Envelope.Size
import Courier.Proofs.Envelope.Transports
import Courier.Proofs.Envelope.WellFormed
import Courier.Proofs.Envelope.Whole
import Courier.Proofs.Json.Embedding
import Courier.Proofs.Json.Record
import Courier.Proofs.Json.Text
import Courier.Proofs.Link.Deletion
import Courier.Proofs.Link.Download
import Courier.Proofs.Link.Exchange
import Courier.Proofs.Link.File
import Courier.Proofs.Link.History
import Courier.Proofs.Link.Step
import Courier.Proofs.Link.Transfer
import Courier.Proofs.Link.Upload
import Courier.Proofs.Server.Answering
import Courier.Proofs.Server.Confinement
import Courier.Proofs.Server.Keeping
import Courier.Proofs.Server.Outcome
import Courier.Proofs.Server.Repeated
import Courier.Proofs.Server.Response
import Courier.Proofs.Server.Stopping
import Courier.Proofs.Server.Upload
import Courier.Proofs.Storage.Change
import Courier.Proofs.Storage.Confinement
import Courier.Proofs.Storage.Disk
import Courier.Proofs.Storage.Failure
import Courier.Proofs.Storage.Lending
import Courier.Proofs.Storage.Order
import Courier.Proofs.Storage.Outline
import Courier.Proofs.Storage.Room
import Courier.Proofs.Storage.Schedule
import Courier.Proofs.Storage.Store
import Courier.Proofs.Storage.Tree
import Courier.Proofs.Stream.Arrival
import Courier.Proofs.Stream.Copy
import Courier.Proofs.Stream.Delimiting
import Courier.Proofs.Stream.Delivery
import Courier.Proofs.Stream.Frame
import Courier.Proofs.Stream.Reading
import Courier.Proofs.Stream.Writer
import Courier.Proofs.Text.Base64
import Courier.Proofs.Text.Numeral
import Courier.Proofs.Text.Utf8
import Courier.Server.Arrival
import Courier.Server.Connection
import Courier.Server.Run
import Courier.Server.Shutdown
import Courier.Server.Startup
import Courier.Server.State
import Courier.Server.Transfer
import Courier.Server.Tunnel
import Courier.Settings.Config
import Courier.Settings.Decode
import Courier.Settings.Error
import Courier.Settings.Secret
import Courier.Settings.Source
import Courier.Settings.Validation
import Courier.Settings.Value
import Courier.Storage.Access
import Courier.Storage.Disk
import Courier.Storage.Error
import Courier.Storage.Lending
import Courier.Storage.Outline
import Courier.Storage.Schedule
import Courier.Storage.Shelf
import Courier.Storage.Store
import Courier.Storage.Tree
import Courier.Stream.Copy
import Courier.Stream.Frame
import Courier.Stream.Reader
import Courier.Stream.Writer
import Courier.Text.Base64
import Courier.Text.Blank
import Courier.Text.Letter
import Courier.Text.Numeral
import Courier.Text.Parse
import Courier.Text.Printable
import Courier.Text.Quoted
import Courier.Text.Split
import Courier.Text.Utf8
import Courier.Tls.Certificate
import Courier.Tls.Der
import Courier.Tls.Error
import Courier.Tls.Pem
import Courier.Tls.PrivateKey
import Courier.Tls.Setup
import Courier.Toml.Number
import Courier.Toml.Statement
import Courier.Toml.Table
import Courier.Toml.Text
import Courier.Proofs.Envelope.Stability
import Courier.Proofs.Stream.Exactness
import Courier.Proofs.Settings.Rejection
import Courier.Proofs.Client.Session
import Courier.Proofs.Server.Absence
import Courier.Proofs.Server.Sending
import Courier.Proofs.Storage.Rollback
import Courier.Proofs.Client.Fetching
import Courier.Proofs.Settings.ServerName
import Courier.Proofs.Server.Echo
import Courier.Proofs.Server.Limit
import Courier.Proofs.Client.Outcome
import Courier.Proofs.Client.TimeLimit
import Courier.Proofs.Client.Blame
import Courier.Proofs.Cipher.Gcm
import Courier.Proofs.Http.Form
import Courier.Proofs.Log.Retrieval
import Courier.Proofs.Settings.Environment
import Courier.Proofs.Settings.Secret
import Courier.Proofs.Envelope.Message
import Courier.Proofs.Envelope.Splitting
import Courier.Proofs.Settings.Sizes
