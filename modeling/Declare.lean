import Declare.Check.Outcome
import Declare.Check.Tally
import Declare.Condition.Basic
import Declare.Condition.Reader
import Declare.Condition.Token
import Declare.Decimal.Layout
import Declare.Decimal.Numeral
import Declare.Discovery.Basic
import Declare.Discovery.Query
import Declare.Discovery.Support
import Declare.Event.Basic
import Declare.Json.Basic
import Declare.Json.Discovery
import Declare.Json.Log
import Declare.Json.Model
import Declare.Json.Numeral
import Declare.Json.Report
import Declare.Json.Syntax
import Declare.Json.Token
import Declare.Log.Basic
import Declare.Model.Basic
import Declare.Model.Constraint
import Declare.Model.Domain
import Declare.Model.Reader
import Declare.Model.Template
import Declare.Model.Tolerant
import Declare.Proofs.Check.Conjunction
import Declare.Proofs.Check.Conservation
import Declare.Proofs.Check.Counts
import Declare.Proofs.Check.Families
import Declare.Proofs.Check.Pairs
import Declare.Proofs.Check.Places
import Declare.Proofs.Check.Positions
import Declare.Proofs.Check.Responses
import Declare.Proofs.Check.Tally
import Declare.Proofs.Check.Timing
import Declare.Proofs.Check.Vacuity
import Declare.Proofs.Check.Verdict
import Declare.Proofs.Condition.Blanks
import Declare.Proofs.Condition.Checked
import Declare.Proofs.Condition.Cursor
import Declare.Proofs.Condition.Layout
import Declare.Proofs.Condition.Membership
import Declare.Proofs.Condition.MoreData
import Declare.Proofs.Condition.Numbers
import Declare.Proofs.Condition.Reading
import Declare.Proofs.Condition.RoundTrip
import Declare.Proofs.Condition.Rounds
import Declare.Proofs.Condition.Walk
import Declare.Proofs.Decimal.Equality
import Declare.Proofs.Decimal.Rounding
import Declare.Proofs.Decimal.Share
import Declare.Proofs.Decimal.Whole
import Declare.Proofs.Discovery.Answers
import Declare.Proofs.Discovery.Cancellation
import Declare.Proofs.Discovery.Candidates
import Declare.Proofs.Discovery.Discover
import Declare.Proofs.Discovery.FrequentSets
import Declare.Proofs.Discovery.Itemsets
import Declare.Proofs.Discovery.Relaxed
import Declare.Proofs.Discovery.Support
import Declare.Proofs.Discovery.Workers
import Declare.Proofs.Event.Equality
import Declare.Proofs.Event.Timestamps
import Declare.Proofs.Json.Records
import Declare.Proofs.Json.Report
import Declare.Proofs.Json.Tokens
import Declare.Proofs.Json.Values
import Declare.Proofs.Model.Accepted
import Declare.Proofs.Model.Beginnings
import Declare.Proofs.Model.Built
import Declare.Proofs.Model.Calls
import Declare.Proofs.Model.ConstraintText
import Declare.Proofs.Model.DomainText
import Declare.Proofs.Model.Growth
import Declare.Proofs.Model.Legible
import Declare.Proofs.Model.Lines
import Declare.Proofs.Model.Modes
import Declare.Proofs.Model.Reread
import Declare.Proofs.Model.RoundTrip
import Declare.Proofs.Report.Queries
import Declare.Proofs.Report.Support
import Declare.Proofs.Text.Join
import Declare.Proofs.Text.Pieces
import Declare.Report.Analysis
import Declare.Text.LetterCase
import Declare.Text.Split
import Declare.Time.Rfc3339
import Declare.Time.Timestamp
