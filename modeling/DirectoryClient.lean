import DirectoryClient.Address.Four
import DirectoryClient.Address.Six
import DirectoryClient.Classifier
import DirectoryClient.ClientError
import DirectoryClient.Config.Basic
import DirectoryClient.Config.Exchange
import DirectoryClient.Config.Redaction
import DirectoryClient.Config.Security
import DirectoryClient.Config.Validation
import DirectoryClient.Cursor
import DirectoryClient.Decimal.Layout
import DirectoryClient.Decimal.Shortest
import DirectoryClient.Dn.Basic
import DirectoryClient.Dn.Escape
import DirectoryClient.Dn.Reading
import DirectoryClient.Dn.Schema
import DirectoryClient.Domain.Direction
import DirectoryClient.Domain.Direction.Table
import DirectoryClient.Domain.Joiner
import DirectoryClient.Domain.Joiner.Table
import DirectoryClient.Domain.Mapping
import DirectoryClient.Domain.Mapping.Table
import DirectoryClient.Domain.Name
import DirectoryClient.Domain.Punycode
import DirectoryClient.Entry
import DirectoryClient.Failure
import DirectoryClient.Inspection
import DirectoryClient.Json.Basic
import DirectoryClient.Json.Number
import DirectoryClient.Json.Place
import DirectoryClient.Json.Printer
import DirectoryClient.Json.Reader
import DirectoryClient.Json.Record
import DirectoryClient.LdapUrl
import DirectoryClient.Manager.Basic
import DirectoryClient.Manager.Connection
import DirectoryClient.Percent
import DirectoryClient.Proofs.Address
import DirectoryClient.Proofs.Attempts
import DirectoryClient.Proofs.Binary.Names
import DirectoryClient.Proofs.Binary.Sorting
import DirectoryClient.Proofs.Classifier
import DirectoryClient.Proofs.Config.Building
import DirectoryClient.Proofs.Config.RoundTrip
import DirectoryClient.Proofs.Config.Spelling
import DirectoryClient.Proofs.Config.Validation
import DirectoryClient.Proofs.Cursor
import DirectoryClient.Proofs.Dn.Endings
import DirectoryClient.Proofs.Dn.Equality
import DirectoryClient.Proofs.Dn.Escape
import DirectoryClient.Proofs.Dn.Hierarchy
import DirectoryClient.Proofs.Dn.Insertion
import DirectoryClient.Proofs.Dn.Joining
import DirectoryClient.Proofs.Dn.Keys
import DirectoryClient.Proofs.Dn.Normal
import DirectoryClient.Proofs.Dn.Order
import DirectoryClient.Proofs.Dn.Positions
import DirectoryClient.Proofs.Dn.Reading
import DirectoryClient.Proofs.Dn.Spelling
import DirectoryClient.Proofs.Dn.Splitting
import DirectoryClient.Proofs.Dn.Stripping
import DirectoryClient.Proofs.Dn.Writing
import DirectoryClient.Proofs.Json.Numbers
import DirectoryClient.Proofs.Json.RoundTrip
import DirectoryClient.Proofs.Json.Strings
import DirectoryClient.Proofs.Manager
import DirectoryClient.Proofs.Referrals.Cycles
import DirectoryClient.Proofs.Referrals.Dialling
import DirectoryClient.Proofs.Referrals.Sites
import DirectoryClient.Proofs.Referrals.Staying
import DirectoryClient.Proofs.Referrals.Unfollowed
import DirectoryClient.Proofs.Referrals.Urls
import DirectoryClient.Proofs.Registry
import DirectoryClient.Proofs.Registry.Growth
import DirectoryClient.Proofs.Registry.Listing
import DirectoryClient.Proofs.Routing
import DirectoryClient.Proofs.Run.Closings
import DirectoryClient.Proofs.Run.Fetching
import DirectoryClient.Proofs.Run.Growth
import DirectoryClient.Proofs.Run.Handout
import DirectoryClient.Proofs.Run.Hosts
import DirectoryClient.Proofs.Run.Listing
import DirectoryClient.Proofs.Run.Move
import DirectoryClient.Proofs.Run.Reachable
import DirectoryClient.Proofs.Run.Record
import DirectoryClient.Proofs.Run.Records
import DirectoryClient.Proofs.Run.Schemes
import DirectoryClient.Proofs.Run.Scope
import DirectoryClient.Proofs.Run.Secured
import DirectoryClient.Proofs.Run.Sessions
import DirectoryClient.Proofs.Run.Sessions.Basic
import DirectoryClient.Proofs.Run.Sessions.Invariant
import DirectoryClient.Proofs.Run.Sweep
import DirectoryClient.Proofs.Scripted.Lawful
import DirectoryClient.Proofs.Scripted.Steady
import DirectoryClient.Proofs.Scripted.Wire
import DirectoryClient.Proofs.Search.Annals
import DirectoryClient.Proofs.Search.Arrival
import DirectoryClient.Proofs.Search.Bounds
import DirectoryClient.Proofs.Search.Closings
import DirectoryClient.Proofs.Search.Counting
import DirectoryClient.Proofs.Search.Course
import DirectoryClient.Proofs.Search.Cursors
import DirectoryClient.Proofs.Search.Delivery
import DirectoryClient.Proofs.Search.Errors
import DirectoryClient.Proofs.Search.Exhaustion
import DirectoryClient.Proofs.Search.Handing
import DirectoryClient.Proofs.Search.Outcome
import DirectoryClient.Proofs.Search.Pauses
import DirectoryClient.Proofs.Search.Places
import DirectoryClient.Proofs.Search.Stages
import DirectoryClient.Proofs.Search.Stopping
import DirectoryClient.Proofs.Search.Turn
import DirectoryClient.Proofs.Search.Verdict
import DirectoryClient.Proofs.Secrecy.Config
import DirectoryClient.Proofs.Secrecy.Manager
import DirectoryClient.Proofs.Secrecy.Registry
import DirectoryClient.Proofs.Secrecy.Run
import DirectoryClient.Proofs.Secrecy.Search
import DirectoryClient.Proofs.Secrecy.World
import DirectoryClient.Proofs.Text.Ascii
import DirectoryClient.Proofs.Text.Blank
import DirectoryClient.Proofs.Text.Casing
import DirectoryClient.Proofs.Text.Lower
import DirectoryClient.Proofs.Text.Parts
import DirectoryClient.Proofs.Text.Words
import DirectoryClient.Proofs.Url.Escaping
import DirectoryClient.Proofs.Url.Hosts
import DirectoryClient.Proofs.Url.Names
import DirectoryClient.Proofs.Url.Reading
import DirectoryClient.Registry.Basic
import DirectoryClient.Registry.Routing
import DirectoryClient.Request
import DirectoryClient.Result
import DirectoryClient.Retry
import DirectoryClient.Scripted.Host
import DirectoryClient.Scripted.Network
import DirectoryClient.Search.Ending
import DirectoryClient.Search.Loop
import DirectoryClient.Search.Options
import DirectoryClient.Search.Pass
import DirectoryClient.Search.Progress
import DirectoryClient.Secret
import DirectoryClient.Server
import DirectoryClient.Text.Blank
import DirectoryClient.Text.Casing
import DirectoryClient.Text.Casing.Table
import DirectoryClient.Text.Hex
import DirectoryClient.Text.Mark
import DirectoryClient.Text.Normal
import DirectoryClient.Text.Normal.Table
import DirectoryClient.Text.Quoted
import DirectoryClient.Text.Quoted.Table
import DirectoryClient.Text.Rows
import DirectoryClient.Text.Split
import DirectoryClient.Transport
import DirectoryClient.Url.Basic
import DirectoryClient.Url.Domain
import DirectoryClient.Url.Path
import DirectoryClient.Url.Reading
import DirectoryClient.Utf8
import DirectoryClient.World
