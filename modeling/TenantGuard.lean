import TenantGuard.Administration
import TenantGuard.Api.Call
import TenantGuard.Api.Perform
import TenantGuard.Api.Place
import TenantGuard.Api.Reading
import TenantGuard.Assignment
import TenantGuard.Auth.Authenticator
import TenantGuard.Auth.Bearer
import TenantGuard.Auth.Identity
import TenantGuard.Auth.KeyDescription
import TenantGuard.Auth.LoginMemory
import TenantGuard.Auth.SignedToken
import TenantGuard.Auth.TokenTable
import TenantGuard.Context
import TenantGuard.Crypto.Der
import TenantGuard.Crypto.Hmac
import TenantGuard.Crypto.Pem
import TenantGuard.Crypto.Rsa
import TenantGuard.Crypto.Sha256
import TenantGuard.Decimal.Binary64
import TenantGuard.Email
import TenantGuard.Engine
import TenantGuard.Entity
import TenantGuard.Execution
import TenantGuard.Fault
import TenantGuard.Fault.Code
import TenantGuard.Fault.Wire
import TenantGuard.Gateway
import TenantGuard.Gateway.Target
import TenantGuard.Http.Cors
import TenantGuard.Http.Exchange
import TenantGuard.Http.MediaType
import TenantGuard.Http.Message
import TenantGuard.Http.RequestTarget
import TenantGuard.Http.Route
import TenantGuard.Json.Printer
import TenantGuard.Json.Reader
import TenantGuard.Json.Shape
import TenantGuard.Json.Token
import TenantGuard.Json.Value
import TenantGuard.Moment
import TenantGuard.Moment.Text
import TenantGuard.Plan
import TenantGuard.Proofs.Administration.Atomicity
import TenantGuard.Proofs.Administration.Authority
import TenantGuard.Proofs.Administration.Command
import TenantGuard.Proofs.Administration.Creation
import TenantGuard.Proofs.Administration.Effect
import TenantGuard.Proofs.Administration.Granting
import TenantGuard.Proofs.Administration.Integrity
import TenantGuard.Proofs.Administration.Invitation
import TenantGuard.Proofs.Administration.Login
import TenantGuard.Proofs.Administration.Reconciliation
import TenantGuard.Proofs.Administration.Request
import TenantGuard.Proofs.Api.Concealment
import TenantGuard.Proofs.Api.Perform
import TenantGuard.Proofs.Auth.Issuer
import TenantGuard.Proofs.Auth.LoginMemory
import TenantGuard.Proofs.Auth.RoundTrip
import TenantGuard.Proofs.Context.Derivation
import TenantGuard.Proofs.Context.Timing
import TenantGuard.Proofs.Disturbance
import TenantGuard.Proofs.Email
import TenantGuard.Proofs.Engine.Agreement
import TenantGuard.Proofs.Engine.Decision
import TenantGuard.Proofs.Engine.Enforcement
import TenantGuard.Proofs.Engine.EntryPoints
import TenantGuard.Proofs.Engine.Failure
import TenantGuard.Proofs.Engine.Interference
import TenantGuard.Proofs.Engine.Lineage
import TenantGuard.Proofs.Execution
import TenantGuard.Proofs.Expression.Containment
import TenantGuard.Proofs.Expression.Grammar
import TenantGuard.Proofs.Expression.Lexeme
import TenantGuard.Proofs.Expression.LineEnd
import TenantGuard.Proofs.Expression.Scanner
import TenantGuard.Proofs.Fault.Wire
import TenantGuard.Proofs.Gateway
import TenantGuard.Proofs.Gateway.Clock
import TenantGuard.Proofs.Gateway.Concealment
import TenantGuard.Proofs.Gateway.Logins
import TenantGuard.Proofs.Gateway.Mounts
import TenantGuard.Proofs.Identifier
import TenantGuard.Proofs.Json.ReadBack
import TenantGuard.Proofs.Json.Record
import TenantGuard.Proofs.Json.Written
import TenantGuard.Proofs.Lookup
import TenantGuard.Proofs.Plan
import TenantGuard.Proofs.Proxy.Address
import TenantGuard.Proofs.Proxy.Answer
import TenantGuard.Proofs.Proxy.Confinement
import TenantGuard.Proofs.Proxy.FormBody
import TenantGuard.Proofs.Proxy.Headers
import TenantGuard.Proofs.Query.ClosingQuote
import TenantGuard.Proofs.Query.Form
import TenantGuard.Proofs.Query.Literal
import TenantGuard.Proofs.Query.Restriction
import TenantGuard.Proofs.Selector.Grammar
import TenantGuard.Proofs.Selector.NormalForm
import TenantGuard.Proofs.Store.Clients
import TenantGuard.Proofs.Store.Granting
import TenantGuard.Proofs.Store.Moving
import TenantGuard.Proofs.Store.Reachable
import TenantGuard.Proofs.Store.Rows
import TenantGuard.Proofs.TenantPath
import TenantGuard.Proofs.Text.Base64
import TenantGuard.Proofs.Text.Utf8
import TenantGuard.Proofs.Transaction
import TenantGuard.Proofs.Url.Extension
import TenantGuard.Proxy
import TenantGuard.Proxy.Forwarding
import TenantGuard.Query.Dialect
import TenantGuard.Query.Expression
import TenantGuard.Query.Form
import TenantGuard.Query.Restriction
import TenantGuard.Query.Selector
import TenantGuard.Role
import TenantGuard.Scope
import TenantGuard.Settings
import TenantGuard.Settings.Path
import TenantGuard.Settings.Printer
import TenantGuard.Settings.Scalar
import TenantGuard.Settings.Source
import TenantGuard.Store
import TenantGuard.Store.Operation
import TenantGuard.Store.Query
import TenantGuard.Store.State
import TenantGuard.Store.Tables
import TenantGuard.Telemetry
import TenantGuard.TenantPath
import TenantGuard.Text.Base64
import TenantGuard.Text.Blank
import TenantGuard.Text.Composed
import TenantGuard.Text.Direction
import TenantGuard.Text.Joining
import TenantGuard.Text.Mark
import TenantGuard.Text.Percent
import TenantGuard.Text.Quoted
import TenantGuard.Text.Ranges
import TenantGuard.Text.Split
import TenantGuard.Text.Unmarked
import TenantGuard.Text.Utf8
import TenantGuard.TimeSpan
import TenantGuard.Url
import TenantGuard.Url.DomainName
import TenantGuard.Url.DomainName.Mapping
import TenantGuard.Url.Host
import TenantGuard.Url.Path
import TenantGuard.Url.Punycode
