import Signpost.Unicode.RangeTable
import Signpost.Unicode.Category
import Signpost.Unicode.Script
import Signpost.Unicode.ScriptExtension
import Signpost.Unicode.LetterCase
import Signpost.Unicode.Identifier
import Signpost.Unicode.Usage
import Signpost.Unicode.Age
import Signpost.Unicode.LowerMapping
import Signpost.Unicode.CaseFolding
import Signpost.Text.Pieces
import Signpost.Text.Percent
import Signpost.Text.Letter
import Signpost.Text.Kebab
import Signpost.Path
import Signpost.Latest
import Signpost.Dict
import Signpost.Regex.CharSet
import Signpost.Regex.Expr
import Signpost.Regex.Search
import Signpost.Regex.Boundary
import Signpost.Regex.Property
import Signpost.Regex.Engine
import Signpost.Regex.Flags
import Signpost.Regex.Escape
import Signpost.Regex.Bracket
import Signpost.Regex.Parser
import Signpost.Method
import Signpost.Http.Token
import Signpost.Http.Headers
import Signpost.Json.Shortest
import Signpost.Json
import Signpost.Error
import Signpost.Route.Placeholder
import Signpost.Route.Pattern
import Signpost.Route.Segment
import Signpost.Route.Tree
import Signpost.Route.Template
import Signpost.HandlerError
import Signpost.Http.Query
import Signpost.Request
import Signpost.Response
import Signpost.Handler
import Signpost.Pipeline
import Signpost.Controllers
import Signpost.Action
import Signpost.Files.Tree
import Signpost.Files.Directory
import Signpost.Files.Mounts
import Signpost.Scope
import Signpost.Router
import Signpost.Registration
import Signpost.Dispatcher
import Signpost.Server
import Signpost.Proofs.Route.Branches
import Signpost.Proofs.Route.History
import Signpost.Proofs.Path
import Signpost.Proofs.Route.Declared
import Signpost.Proofs.Route.Values
import Signpost.Proofs.OptionalTail
import Signpost.Proofs.Files.Mounts
import Signpost.Proofs.Dispatch.Trace
import Signpost.Proofs.Dispatch.Calls
import Signpost.Proofs.Dispatch.CallOrder
import Signpost.Proofs.Dispatch.Runs
import Signpost.Proofs.AllOrNothing
import Signpost.Proofs.Groups
import Signpost.Proofs.Dict
import Signpost.Proofs.Percent
import Signpost.Proofs.Route.Forms
import Signpost.Proofs.Route.Template
import Signpost.Proofs.Route.Filled
import Signpost.Proofs.Addresses
import Signpost.Proofs.Route.Rebuilt
import Signpost.Proofs.Files.Confinement
import Signpost.Proofs.Headers
import Signpost.Proofs.Targets
import Signpost.Proofs.Server.BodyLimit
import Signpost.Proofs.Server.Identity
import Signpost.Proofs.Files.Serving
import Signpost.Proofs.Dispatch.Answers
import Signpost.Proofs.Route.Literals
import Signpost.Proofs.Programs
import Signpost.Proofs.LiteralRoutes
import Signpost.Proofs.Route.Terminals
import Signpost.Proofs.Names
import Signpost.Proofs.Controllers
import Signpost.Proofs.Files.Refusal
import Signpost.Proofs.Regex.Escapes
import Signpost.Proofs.Regex.Ordered
import Signpost.Proofs.Regex.Reading
import Signpost.Proofs.Route.Anchored
import Signpost.Proofs.ByteOrder
import Signpost.Proofs.Route.Ways
import Signpost.Proofs.Route.Listing
import Signpost.Proofs.Route.Rearranged
import Signpost.Proofs.Files.Mounted
import Signpost.Proofs.Spelling
import Signpost.Proofs.Words
