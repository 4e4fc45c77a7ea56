import GrantKeeper.Account.Basic
import GrantKeeper.Account.Enrollment
import GrantKeeper.Account.Validity
import GrantKeeper.Cipher.Aes
import GrantKeeper.Cipher.BigEndian
import GrantKeeper.Cipher.Gcm
import GrantKeeper.Cipher.Nonce
import GrantKeeper.Cipher.Passphrase
import GrantKeeper.Cipher.Sha256
import GrantKeeper.Command.Line
import GrantKeeper.Command.Options
import GrantKeeper.Command.Run
import GrantKeeper.Command.Usage
import GrantKeeper.Disk.Basic
import GrantKeeper.Disk.Change
import GrantKeeper.Disk.Path
import GrantKeeper.Disk.Replacement
import GrantKeeper.Disk.Tree
import GrantKeeper.Endpoint.Address
import GrantKeeper.Endpoint.Barred
import GrantKeeper.Endpoint.Domain
import GrantKeeper.Endpoint.Fault
import GrantKeeper.Endpoint.Host
import GrantKeeper.Endpoint.International
import GrantKeeper.Endpoint.Ipv4
import GrantKeeper.Endpoint.Ipv6
import GrantKeeper.Endpoint.Percent
import GrantKeeper.Endpoint.Punycode
import GrantKeeper.Endpoint.Reading
import GrantKeeper.Endpoint.Segments
import GrantKeeper.Exchange.Answer
import GrantKeeper.Exchange.Fault
import GrantKeeper.Exchange.Order
import GrantKeeper.Exchange.Refresher
import GrantKeeper.Exchange.Status
import GrantKeeper.Exchange.Strategies
import GrantKeeper.Fault
import GrantKeeper.Grant.Basic
import GrantKeeper.Grant.Record
import GrantKeeper.Grant.Reply
import GrantKeeper.Json.Document
import GrantKeeper.Json.Fault
import GrantKeeper.Json.Layout
import GrantKeeper.Json.Lexeme
import GrantKeeper.Json.Number
import GrantKeeper.Json.Reader
import GrantKeeper.Keeper.Basic
import GrantKeeper.Keeper.Caller
import GrantKeeper.Keeper.Refresh
import GrantKeeper.Keeper.Roster
import GrantKeeper.Keeper.Solo
import GrantKeeper.Main
import GrantKeeper.Outcome
import GrantKeeper.Places
import GrantKeeper.Provider
import GrantKeeper.Settings
import GrantKeeper.Text.Base64
import GrantKeeper.Text.Blank
import GrantKeeper.Text.Caseless
import GrantKeeper.Text.Composed
import GrantKeeper.Text.Decimal
import GrantKeeper.Text.Direction
import GrantKeeper.Text.Hidden
import GrantKeeper.Text.Inspect
import GrantKeeper.Text.Mark
import GrantKeeper.Text.Pieces
import GrantKeeper.Text.Runs
import GrantKeeper.Text.Utf8
import GrantKeeper.Time.Calendar
import GrantKeeper.Time.Instant
import GrantKeeper.Vault.Basic
import GrantKeeper.Vault.Folder
import GrantKeeper.Vault.Memory
import GrantKeeper.Proofs.Traffic.Basic
import GrantKeeper.Proofs.Keeper.Outcomes
import GrantKeeper.Proofs.Keeper.Alone
import GrantKeeper.Proofs.Traffic.Flights
import GrantKeeper.Proofs.Json.Quote
import GrantKeeper.Proofs.Text.Numeral
import GrantKeeper.Proofs.Json.Numeral
import GrantKeeper.Proofs.Json.Written
import GrantKeeper.Proofs.Grant.Record
import GrantKeeper.Proofs.Cipher.Seal
import GrantKeeper.Proofs.Text.Base64
import GrantKeeper.Proofs.Vault.Record
import GrantKeeper.Proofs.Disk.Path
import GrantKeeper.Proofs.Disk.Replacement
import GrantKeeper.Proofs.Vault.Lawful
import GrantKeeper.Proofs.Vault.Folder
import GrantKeeper.Proofs.Traffic.Coherence
import GrantKeeper.Proofs.Traffic.Deletion
import GrantKeeper.Proofs.Traffic.Joining
import GrantKeeper.Proofs.Traffic.Joined
import GrantKeeper.Proofs.Traffic.Turns
import GrantKeeper.Proofs.Traffic.Failures
import GrantKeeper.Proofs.Traffic.Waking
import GrantKeeper.Proofs.Vault.Candid
import GrantKeeper.Proofs.Traffic.Renewal
import GrantKeeper.Proofs.Grant.Expiry
import GrantKeeper.Proofs.Traffic.Bystanders
import GrantKeeper.Proofs.Traffic.Sharing
import GrantKeeper.Proofs.Keeper.Reading
import GrantKeeper.Proofs.Grant.Sound
import GrantKeeper.Proofs.Traffic.Grants
import GrantKeeper.Proofs.Traffic.Handing
import GrantKeeper.Proofs.Disk.Calm
import GrantKeeper.Proofs.Vault.Listing
import GrantKeeper.Proofs.Vault.Mirror
import GrantKeeper.Proofs.Vault.Modes
import GrantKeeper.Proofs.Disk.Goal
import GrantKeeper.Proofs.Disk.Sparing
import GrantKeeper.Proofs.Json.Listed
import GrantKeeper.Proofs.Json.Object
import GrantKeeper.Proofs.Json.Decoded
import GrantKeeper.Proofs.Provider
import GrantKeeper.Proofs.Settings.Record
import GrantKeeper.Proofs.Settings.Taking
import GrantKeeper.Proofs.Command.Failing
import GrantKeeper.Proofs.Command.History
import GrantKeeper.Proofs.Secrets
import GrantKeeper.Proofs.Vault.Parted
import GrantKeeper.Proofs.Vault.Orderly
import GrantKeeper.Proofs.Keeper.Deeds
import GrantKeeper.Proofs.Traffic.Independence
import GrantKeeper.Proofs.Keeper.Sweep
import GrantKeeper.Proofs.Exchange.Body
import GrantKeeper.Proofs.Exchange.Verdict
import GrantKeeper.Proofs.Vault.Naming
import GrantKeeper.Proofs.Disk.Stages
import GrantKeeper.Proofs.Saving
import GrantKeeper.Proofs.Text.Lossy
import GrantKeeper.Proofs.Exchange.Form
import GrantKeeper.Proofs.Exchange.Home
import GrantKeeper.Proofs.Keeper.Lifetime
import GrantKeeper.Proofs.Traffic.Buffered
import GrantKeeper.Proofs.Traffic.Roll
import GrantKeeper.Proofs.Traffic.Rotation
import GrantKeeper.Proofs.Command.Rewriting
import GrantKeeper.Proofs.Command.Standing
import GrantKeeper.Proofs.Cipher.Passphrase
import GrantKeeper.Proofs.Cipher.Unseal
import GrantKeeper.Proofs.Json.Integer
import GrantKeeper.Proofs.Json.Positional
import GrantKeeper.Proofs.Json.Stamp
import GrantKeeper.Proofs.Grant.Told
import GrantKeeper.Proofs.Grant.Dated
import GrantKeeper.Proofs.Exchange.Strategies
import GrantKeeper.Proofs.Grant.Shuffled
