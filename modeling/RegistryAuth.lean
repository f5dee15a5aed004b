import RegistryAuth.Binary64.Basic
import RegistryAuth.Binary64.Decimal
import RegistryAuth.Binary64.Shortest
import RegistryAuth.Broker.Ask
import RegistryAuth.Broker.Call
import RegistryAuth.Broker.Diagnostics
import RegistryAuth.Broker.Parts
import RegistryAuth.Broker.Progress
import RegistryAuth.Broker.Reply
import RegistryAuth.Broker.Rounds
import RegistryAuth.Broker.Session
import RegistryAuth.Broker.Stage
import RegistryAuth.Broker.State
import RegistryAuth.Cache
import RegistryAuth.Error
import RegistryAuth.Files
import RegistryAuth.Http.Failure
import RegistryAuth.Http.Message
import RegistryAuth.Http.Uri
import RegistryAuth.Identity.Credential
import RegistryAuth.Identity.Managed
import RegistryAuth.Identity.Selector
import RegistryAuth.Identity.Workload
import RegistryAuth.Idna.Domain
import RegistryAuth.Idna.LabelTable
import RegistryAuth.Idna.MappingTable
import RegistryAuth.Idna.Normal
import RegistryAuth.Idna.NormalTable
import RegistryAuth.Idna.Punycode
import RegistryAuth.Json.Basic
import RegistryAuth.Json.Lexeme
import RegistryAuth.Json.Parser
import RegistryAuth.Json.Printer
import RegistryAuth.Json.Record
import RegistryAuth.Observation
import RegistryAuth.Registry.Exchange
import RegistryAuth.Settings
import RegistryAuth.Text.Ascii
import RegistryAuth.Text.Base64Url
import RegistryAuth.Text.Blank
import RegistryAuth.Text.CaseTable
import RegistryAuth.Text.CodeTable
import RegistryAuth.Text.Lowercase
import RegistryAuth.Text.MapTable
import RegistryAuth.Text.PrintTable
import RegistryAuth.Text.Quoted
import RegistryAuth.Text.Utf8
import RegistryAuth.Time.Basic
import RegistryAuth.Time.MailDate
import RegistryAuth.Token.Access
import RegistryAuth.Token.Claims
import RegistryAuth.Token.Identifier
import RegistryAuth.Url.Basic
import RegistryAuth.Url.Form
import RegistryAuth.Url.Host
import RegistryAuth.Url.Ipv4
import RegistryAuth.Url.Ipv6
import RegistryAuth.Url.Parser
import RegistryAuth.Url.Percent
import RegistryAuth.Proofs.Broker.Traffic
import RegistryAuth.Proofs.Cache.History
import RegistryAuth.Proofs.Broker.Courses
import RegistryAuth.Proofs.Broker.Facade
import RegistryAuth.Proofs.Broker.Readings
import RegistryAuth.Proofs.Broker.Provenance
import RegistryAuth.Proofs.Registry.Host
import RegistryAuth.Proofs.Broker.Emptiness
import RegistryAuth.Proofs.Broker.Waiters
import RegistryAuth.Proofs.Broker.Omissions
import RegistryAuth.Proofs.Broker.Cancellation
import RegistryAuth.Proofs.Broker.Caching
import RegistryAuth.Proofs.Broker.Metrics
import RegistryAuth.Proofs.Broker.Permanence
import RegistryAuth.Proofs.Broker.Desk
import RegistryAuth.Proofs.Broker.Slots
import RegistryAuth.Proofs.Broker.Twins
import RegistryAuth.Proofs.Broker.Disclosure
import RegistryAuth.Proofs.Cache.Isolation
import RegistryAuth.Proofs.Cache.Sections
import RegistryAuth.Proofs.Broker.Construction
import RegistryAuth.Proofs.Broker.Bodies
import RegistryAuth.Proofs.Registry.Form
import RegistryAuth.Proofs.Identity.Managed
import RegistryAuth.Proofs.Identity.Workload
import RegistryAuth.Proofs.Token.Decoding
import RegistryAuth.Proofs.Broker.Tenants
import RegistryAuth.Proofs.Broker.Grants
import RegistryAuth.Proofs.Identity.Tenants
import RegistryAuth.Proofs.Token.Expiry
import RegistryAuth.Proofs.Http.Delays
import RegistryAuth.Proofs.Broker.Refusals
import RegistryAuth.Proofs.Token.Identifiers
import RegistryAuth.Proofs.Token.Serialization
import RegistryAuth.Proofs.Broker.Unanswered
import RegistryAuth.Proofs.Broker.Acquisitions
import RegistryAuth.Proofs.Registry.Names
