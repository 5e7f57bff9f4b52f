import IdentityGateway.Core.Scripted
import IdentityGateway.Main
import IdentityGateway.Proofs.Memory.Lookup
import IdentityGateway.Proofs.Memory.Refresh
import IdentityGateway.Proofs.Memory.Chains
import IdentityGateway.Proofs.Memory.Interleaving
import IdentityGateway.Proofs.Memory.Logins
import IdentityGateway.Proofs.Memory.Refusals
import IdentityGateway.Proofs.Gateway.Questions
import IdentityGateway.Proofs.Gateway.Agreement
import IdentityGateway.Proofs.Gateway.Comparison
import IdentityGateway.Proofs.Gateway.Redaction
import IdentityGateway.Proofs.Gateway.Secrecy
import IdentityGateway.Proofs.Text.Utf8
import IdentityGateway.Proofs.Text.Decimal
import IdentityGateway.Proofs.Json.Strings
import IdentityGateway.Proofs.Json.Numerals
import IdentityGateway.Proofs.Json.Values
import IdentityGateway.Proofs.Json.Records
import IdentityGateway.Proofs.Json.Hiding
import IdentityGateway.Proofs.Timestamp.Calendar
import IdentityGateway.Proofs.Timestamp.Written
import IdentityGateway.Proofs.Identity
import IdentityGateway.Proofs.Grant
import IdentityGateway.Proofs.Grant.Hidden
import IdentityGateway.Proofs.Remote
import IdentityGateway.Proofs.Gateway.Outages
import IdentityGateway.Proofs.Credential
import IdentityGateway.Proofs.Gateway.Grants
import IdentityGateway.Proofs.Gateway.Traffic
import IdentityGateway.Proofs.Memory.Endurance
import IdentityGateway.Proofs.Gateway.Tokens
import IdentityGateway.Proofs.Unicode.Normal
import IdentityGateway.Proofs.Text.Separator
import IdentityGateway.Proofs.Host.Punycode
import IdentityGateway.Proofs.Host.Ascii
import IdentityGateway.Proofs.EmailAddress
import IdentityGateway.Proofs.Gateway.Addresses
import IdentityGateway.Proofs.Text.Case
import IdentityGateway.Proofs.Host.Case
import IdentityGateway.Proofs.EmailSpelling
import IdentityGateway.Proofs.Gateway.Spellings
import IdentityGateway.Proofs.Gateway.RequestIds
import IdentityGateway.Proofs.Gateway.Oversize
import IdentityGateway.Proofs.Gateway.Origins
import IdentityGateway.Core.Span
import IdentityGateway.Proofs.Memory.Lifetimes
import IdentityGateway.Proofs.Credential.Pairs
import IdentityGateway.Proofs.Grant.Forms
import IdentityGateway.Proofs.Identity.Agreement
import IdentityGateway.Proofs.Settings.Acceptance
import IdentityGateway.Proofs.Settings.CookieNames
import IdentityGateway.Proofs.FieldErrors
import IdentityGateway.Proofs.Account.Forms
import IdentityGateway.Proofs.Gateway.Validation
import IdentityGateway.Proofs.Url
import IdentityGateway.Proofs.Remote.Requests
import IdentityGateway.Proofs.Memory.Representation
import IdentityGateway.Proofs.Text.Margins
import IdentityGateway.Proofs.Settings.Margins
import IdentityGateway.Proofs.Gateway.Deadline
import IdentityGateway.Proofs.Timestamp.Days
import IdentityGateway.Proofs.Timestamp.Offsets
import IdentityGateway.Proofs.Identity.Instants
import IdentityGateway.Proofs.Text.ByteOrder
import IdentityGateway.Proofs.Json.MemberOrder
import IdentityGateway.Proofs.Gateway.FieldMessages
