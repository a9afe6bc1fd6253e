import Listing.Text.Blank
import Listing.Text.Digit
import Listing.Text.Lower
import Listing.Text.Quoted
import Listing.Number.Literal
import Listing.Number.Basic
import Listing.Failure
import Listing.Value.Text
import Listing.Operator
import Listing.CommaList
import Listing.ValueType
import Listing.Clause
import Listing.Settings
import Listing.Capability
import Listing.Query
import Listing.Outcome
import Listing.Request
import Listing.Render
import Listing.Form
import Listing.Address
import Listing.Address.Host
import Listing.Link
import Listing.Condition
import Listing.Match
import Listing.Source
import Listing.Reply
import Listing.Endpoint
import Listing.Session
import Listing.Proofs.QueryString
import Listing.Proofs.Address
import Listing.Proofs.Expression
import Listing.Proofs.Numerals
import Listing.Proofs.Grammar
import Listing.Proofs.CommaList
import Listing.Proofs.Enforcement
import Listing.Proofs.Sorts
import Listing.Proofs.Filters
import Listing.Proofs.Rendering
import Listing.Proofs.RoundTrip
import Listing.Proofs.Revision
import Listing.Proofs.Agreement
import Listing.Proofs.Rounding
import Listing.Proofs.Execution
import Listing.Proofs.Forced
import Listing.Proofs.Paging
import Listing.Proofs.PageCounts
import Listing.Proofs.Conditions
import Listing.Proofs.Reachability
import Listing.Proofs.Readable
import Listing.Proofs.Replies
import Listing.Proofs.Visits
import Listing.Proofs.Snapshot
import Listing.Proofs.Separation
import Listing.Proofs.Completion
import Listing.Proofs.Overlay
import Listing.Proofs.Patches
import Listing.Proofs.Descriptions
import Listing.Proofs.Positions
import Listing.Proofs.Verdicts
import Listing.Proofs.Orders
import Listing.Proofs.Lettercase
import Listing.Proofs.Decimals
import Listing.Proofs.Literals
import Listing.Proofs.TypedValues
import Listing.Proofs.Seams
import Listing.Proofs.Lookups
import Listing.Proofs.Pagination
import Listing.Proofs.Paths
import Listing.Proofs.NumberFields
