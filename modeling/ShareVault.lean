import ShareVault.Message.Response
import ShareVault.Calendar.IsoFormat
import ShareVault.Snapshot.History
import ShareVault.Gateway.Served
import ShareVault.Vault.KeeperList
import ShareVault.Vault.Scripted
import ShareVault.Main
import ShareVault.Proofs.Ledger.Accounts
import ShareVault.Proofs.Ledger.Receipt
import ShareVault.Proofs.Ledger.Rounding
import ShareVault.Proofs.Ledger.Sound
import ShareVault.Proofs.Vault.Conservation
import ShareVault.Proofs.Ledger.Price
import ShareVault.Proofs.Vault.Redemption
import ShareVault.Proofs.Vault.Trading
import ShareVault.Proofs.Vault.Exit
import ShareVault.Proofs.Vault.Answered
import ShareVault.Proofs.Json.Literal
import ShareVault.Proofs.Json.Scalar
import ShareVault.Proofs.Json.Reread
import ShareVault.Proofs.Json.RoundTrip
import ShareVault.Proofs.Json.Bytes
import ShareVault.Proofs.Wire.Reader
import ShareVault.Proofs.Wire.Written
import ShareVault.Proofs.Json.StrictText
import ShareVault.Proofs.Message.Shape
import ShareVault.Proofs.Message.Payload
import ShareVault.Proofs.Wire.Table
import ShareVault.Proofs.Wire.Binding
import ShareVault.Proofs.Message.Restore
import ShareVault.Proofs.Message.RoundTrip
import ShareVault.Proofs.Ledger.Par
import ShareVault.Proofs.Ledger.Caps
import ShareVault.Proofs.Message.Response
import ShareVault.Proofs.Vault.Width
import ShareVault.Proofs.Vault.Caps
import ShareVault.Proofs.Capability.Growth
import ShareVault.Proofs.Capability.Composition
import ShareVault.Proofs.Capability.Payload
import ShareVault.Proofs.Vault.Site
import ShareVault.Proofs.Vault.Rejection
import ShareVault.Proofs.Message.Untrusted
import ShareVault.Proofs.Message.Exchange
import ShareVault.Proofs.Gateway.Served
import ShareVault.Proofs.Vault.Routing
import ShareVault.Proofs.Vault.StoredInfo
import ShareVault.Proofs.Gateway.StandardInfo
import ShareVault.Proofs.Ledger.Parts
import ShareVault.Proofs.Vault.Parts
import ShareVault.Proofs.Vault.Conversion
import ShareVault.Proofs.Gateway.Shared
import ShareVault.Proofs.Gateway.Interpreted
import ShareVault.Proofs.Capability.NormalForm
import ShareVault.Proofs.Gateway.Outage
import ShareVault.Proofs.Message.Coercion
import ShareVault.Proofs.Ledger.Monotone
import ShareVault.Proofs.Vault.Threshold
import ShareVault.Proofs.Message.WideInteger
import ShareVault.Proofs.Number.Nearest
import ShareVault.Proofs.Snapshot.Frame
import ShareVault.Proofs.Snapshot.History
import ShareVault.Proofs.Gateway.InUse
