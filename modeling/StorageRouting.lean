import StorageRouting.Access
import StorageRouting.Backend.Client
import StorageRouting.Backend.Form
import StorageRouting.Backend.Memory
import StorageRouting.Backend.MemoryAdapter
import StorageRouting.Backend.Object
import StorageRouting.Backend.Simulated
import StorageRouting.Backend.Store
import StorageRouting.Bytes.Base64
import StorageRouting.Bytes.Basic
import StorageRouting.Bytes.Der
import StorageRouting.Bytes.Sha256
import StorageRouting.Bytes.SipHash
import StorageRouting.Config.Endpoint
import StorageRouting.Config.Form
import StorageRouting.Config.Location
import StorageRouting.Config.Settings
import StorageRouting.Config.Source
import StorageRouting.Console.AccessList
import StorageRouting.Console.BackendsReport
import StorageRouting.Console.BucketChange
import StorageRouting.Console.Command
import StorageRouting.Console.Completion
import StorageRouting.Console.ExitCode
import StorageRouting.Console.Grammar
import StorageRouting.Console.Header
import StorageRouting.Console.Job
import StorageRouting.Console.Listing
import StorageRouting.Console.Lookup
import StorageRouting.Console.Output
import StorageRouting.Console.Program
import StorageRouting.Console.Removal
import StorageRouting.Console.Run
import StorageRouting.Console.Session
import StorageRouting.Console.SharedLink
import StorageRouting.Console.Table
import StorageRouting.Console.Transfer
import StorageRouting.Credential.Basic
import StorageRouting.Credential.Resolver
import StorageRouting.Credential.Rsa
import StorageRouting.Dictionary
import StorageRouting.Document.Json
import StorageRouting.Document.Record
import StorageRouting.Document.Toml.Literal
import StorageRouting.Document.Toml.Printer
import StorageRouting.Document.Toml.Quoted
import StorageRouting.Document.Toml.Statement
import StorageRouting.Document.Toml.Table
import StorageRouting.Document.Value
import StorageRouting.Document.Xml.Scope
import StorageRouting.Document.Xml.Text
import StorageRouting.Document.Xml.Token
import StorageRouting.Error
import StorageRouting.Files.ContentType
import StorageRouting.Files.Path
import StorageRouting.Files.Tree
import StorageRouting.Log
import StorageRouting.Main
import StorageRouting.Number.Binary64
import StorageRouting.Number.Decimal
import StorageRouting.Number.Size
import StorageRouting.Number.Width
import StorageRouting.Proofs.Backend.ClientCall
import StorageRouting.Proofs.Backend.DirectoryTree
import StorageRouting.Proofs.Backend.Listing
import StorageRouting.Proofs.Backend.MemoryHistory
import StorageRouting.Proofs.Backend.Observers
import StorageRouting.Proofs.Backend.PageWalk
import StorageRouting.Proofs.Backend.Paging
import StorageRouting.Proofs.Backend.ReferencePage
import StorageRouting.Proofs.Backend.RoutedRun
import StorageRouting.Proofs.Backend.StoreCall
import StorageRouting.Proofs.Bytes.Base64
import StorageRouting.Proofs.Config.RoundTrip
import StorageRouting.Proofs.Console.DocumentOutput
import StorageRouting.Proofs.Console.HeaderOption
import StorageRouting.Proofs.Console.HealthRows
import StorageRouting.Proofs.Console.ListingTotal
import StorageRouting.Proofs.Console.Removal
import StorageRouting.Proofs.Console.SessionRoute
import StorageRouting.Proofs.Credential.Decryption
import StorageRouting.Proofs.Credential.Disclosure
import StorageRouting.Proofs.Credential.Padding
import StorageRouting.Proofs.Document.Escapes
import StorageRouting.Proofs.Document.Json
import StorageRouting.Proofs.Number.Decimal
import StorageRouting.Proofs.Registry.FailedStart
import StorageRouting.Proofs.Registry.History
import StorageRouting.Proofs.Registry.Lifecycle
import StorageRouting.Proofs.Registry.Notice
import StorageRouting.Proofs.Registry.Operation
import StorageRouting.Proofs.Registry.Population
import StorageRouting.Proofs.Registry.PrimaryRetention
import StorageRouting.Proofs.Registry.Probing
import StorageRouting.Proofs.Registry.Selection
import StorageRouting.Proofs.Registry.Shutdown
import StorageRouting.Proofs.Routing.CallTree
import StorageRouting.Proofs.Routing.ExpressionGrammar
import StorageRouting.Proofs.Routing.ExpressionSpelling
import StorageRouting.Proofs.Routing.GuardedKeys
import StorageRouting.Proofs.Routing.KeptAnswers
import StorageRouting.Proofs.Routing.LentStack
import StorageRouting.Proofs.Routing.Polling
import StorageRouting.Proofs.Routing.StandardChain
import StorageRouting.Proofs.Routing.TaskIsolation
import StorageRouting.Proofs.S3.Deposits
import StorageRouting.Proofs.S3.Exchange
import StorageRouting.Proofs.S3.Parts
import StorageRouting.Proofs.S3.Regrouping
import StorageRouting.Proofs.S3.Requests
import StorageRouting.Proofs.S3.UploadProtocol
import StorageRouting.Proofs.Text.Order
import StorageRouting.Proofs.Time.Expiration
import StorageRouting.Proofs.Toml.Document
import StorageRouting.Proofs.Toml.Table
import StorageRouting.Proofs.Url.Encoding
import StorageRouting.Registry.Basic
import StorageRouting.Registry.Broadcast
import StorageRouting.Registry.Converter
import StorageRouting.Registry.Event
import StorageRouting.Registry.Health
import StorageRouting.Routing.Expression
import StorageRouting.Routing.Interceptor
import StorageRouting.Routing.Invocation
import StorageRouting.Routing.Machine
import StorageRouting.Routing.Program
import StorageRouting.Routing.Resolver
import StorageRouting.Routing.RouteTable
import StorageRouting.Routing.Stack
import StorageRouting.S3.Adapter
import StorageRouting.S3.Address
import StorageRouting.S3.Connection
import StorageRouting.S3.Link
import StorageRouting.S3.Message
import StorageRouting.S3.Parts
import StorageRouting.S3.Refusal
import StorageRouting.S3.Results
import StorageRouting.S3.Signature
import StorageRouting.S3.Upload
import StorageRouting.Scenario.Fleet
import StorageRouting.Scenario.Platform
import StorageRouting.Scenario.Run
import StorageRouting.Scenario.Step
import StorageRouting.Text.Blank
import StorageRouting.Text.Columns
import StorageRouting.Text.Hex
import StorageRouting.Text.LetterCase
import StorageRouting.Text.Printable
import StorageRouting.Text.Quoted
import StorageRouting.Time.Calendar
import StorageRouting.Time.Expiration
import StorageRouting.Time.Moment
import StorageRouting.Url.Basic
import StorageRouting.Url.Encoding
import StorageRouting.Url.Host
import StorageRouting.Url.Punycode
