import EvmWallet.Eth.Server
import EvmWallet.Network.Selection
import EvmWallet.Payment.Error
import EvmWallet.Payment.Form
import EvmWallet.Payment.Outcome
import EvmWallet.Token.Cache
import EvmWallet.Token.Explorer
import EvmWallet.Token.Portfolio
import EvmWallet.Checkout.Inquiry
import EvmWallet.Proofs.Checkout.Journal
import EvmWallet.Proofs.Checkout.Follows
import EvmWallet.Proofs.Checkout.Published
import EvmWallet.Proofs.Checkout.Sessions
import EvmWallet.Proofs.Checkout.Callbacks
import EvmWallet.Proofs.Checkout.Hall
import EvmWallet.Proofs.Checkout.Interference
import EvmWallet.Proofs.Checkout.Calls
import EvmWallet.Proofs.Checkout.Charge
import EvmWallet.Proofs.Checkout.Moments
import EvmWallet.Proofs.Checkout.Protocol
import EvmWallet.Proofs.Checkout.Between
import EvmWallet.Proofs.Checkout.Emptiness
import EvmWallet.Proofs.Checkout.Versions
import EvmWallet.Proofs.Checkout.Inquiries
import EvmWallet.Proofs.Portfolio.Requests
import EvmWallet.Proofs.Portfolio.Clients
import EvmWallet.Proofs.Cache.Entries
import EvmWallet.Proofs.Cache.History
import EvmWallet.Proofs.Portfolio.Notes
import EvmWallet.Proofs.Portfolio.Refresh
import EvmWallet.Proofs.Portfolio.Balances
import EvmWallet.Proofs.Portfolio.Polls
import EvmWallet.Proofs.Bytes.Utf8
import EvmWallet.Proofs.Json.Grammar
import EvmWallet.Proofs.Json.Documents
import EvmWallet.Proofs.Json.Acceptance
import EvmWallet.Proofs.Json.Records
import EvmWallet.Proofs.Text.Numerals
import EvmWallet.Proofs.Settings.Networks
import EvmWallet.Proofs.Settings.Documents
import EvmWallet.Proofs.Network.Audience
import EvmWallet.Proofs.Number.Nearest
import EvmWallet.Proofs.Token.Search
import EvmWallet.Proofs.Token.Amounts
import EvmWallet.Proofs.Token.Order
import EvmWallet.Proofs.Token.Overflow
import EvmWallet.Proofs.Checkout.Answers
import EvmWallet.Proofs.Portfolio.Attempts
import EvmWallet.Proofs.Token.Listings
import EvmWallet.Proofs.Eth.Spellings
import EvmWallet.Proofs.Eth.Alike
import EvmWallet.Proofs.Portfolio.Contracts
import EvmWallet.Proofs.Settings.Choices
import EvmWallet.Proofs.Settings.Redirections
import EvmWallet.Proofs.Eth.BalanceCalls
import EvmWallet.Proofs.Number.Positional
import EvmWallet.Proofs.Token.Documents
import EvmWallet.Proofs.Url.Encoding
import EvmWallet.Proofs.Url.Segments
import EvmWallet.Proofs.Url.Folders
import EvmWallet.Proofs.Token.ListingUrls
