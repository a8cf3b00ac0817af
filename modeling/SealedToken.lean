import SealedToken.Attempt
import SealedToken.Cli.Arguments
import SealedToken.Cli.Page
import SealedToken.Cli.Reading
import SealedToken.Cli.Run
import SealedToken.Cli.Switch
import SealedToken.Crypto.Aes
import SealedToken.Crypto.Gcm
import SealedToken.Crypto.Hkdf
import SealedToken.Crypto.Sha256
import SealedToken.Deployment
import SealedToken.Draw
import SealedToken.Json.Printer
import SealedToken.Json.Reader
import SealedToken.Json.Value
import SealedToken.Key.ByteSource
import SealedToken.Key.Jwk
import SealedToken.Key.Jwk.Lemmas
import SealedToken.Key.Keyring
import SealedToken.Key.Secret
import SealedToken.Main
import SealedToken.Metered
import SealedToken.Metrics.Basic
import SealedToken.Metrics.Exposition
import SealedToken.Number.Binary64
import SealedToken.Number.Decimal
import SealedToken.Number.Literal
import SealedToken.Number.Shortest
import SealedToken.OrderedMap
import SealedToken.Payload
import SealedToken.Proofs.Addresses
import SealedToken.Proofs.Canonical
import SealedToken.Proofs.Counting
import SealedToken.Proofs.Decisions
import SealedToken.Proofs.Encodable
import SealedToken.Proofs.Exposition
import SealedToken.Proofs.Fields
import SealedToken.Proofs.Grammar
import SealedToken.Proofs.Histories
import SealedToken.Proofs.Identities
import SealedToken.Proofs.Inspecting
import SealedToken.Proofs.IssuerBinding
import SealedToken.Proofs.Issuing
import SealedToken.Proofs.KeyHistories
import SealedToken.Proofs.KeyLookups
import SealedToken.Proofs.Layout
import SealedToken.Proofs.Lines
import SealedToken.Proofs.Metering
import SealedToken.Proofs.Nonces
import SealedToken.Proofs.Opening
import SealedToken.Proofs.Parts
import SealedToken.Proofs.Payload
import SealedToken.Proofs.Reading
import SealedToken.Proofs.Refusals
import SealedToken.Proofs.Registration
import SealedToken.Proofs.Remarking
import SealedToken.Proofs.Renewals
import SealedToken.Proofs.Requiring
import SealedToken.Proofs.Resealing
import SealedToken.Proofs.RoleLists
import SealedToken.Proofs.RoundTrip
import SealedToken.Proofs.Runs
import SealedToken.Proofs.Secrets
import SealedToken.Proofs.Tenants
import SealedToken.Proofs.Verdicts
import SealedToken.Proofs.Wire
import SealedToken.Registry
import SealedToken.Role
import SealedToken.Sealing
import SealedToken.Settings
import SealedToken.Text.Base64
import SealedToken.Text.Base64.Lemmas
import SealedToken.Text.Basic
import SealedToken.Text.Blank
import SealedToken.Text.CodePoint
import SealedToken.Text.Digit
import SealedToken.Text.Encoding
import SealedToken.Text.Percent
import SealedToken.Text.Percent.Lemmas
import SealedToken.Text.Printable
import SealedToken.Text.Quoted
import SealedToken.Text.Ranges
import SealedToken.Text.Utf8
import SealedToken.Text.Utf8.Lemmas
import SealedToken.Token.Basic
import SealedToken.Token.Contents
import SealedToken.Token.Fault
import SealedToken.Token.Record
import SealedToken.Token.Request
import SealedToken.Token.Variant
import SealedToken.Token.Wire
import SealedToken.Url.Basic
import SealedToken.Url.Ipv6
import SealedToken.Url.Lemmas
import SealedToken.Verifier
