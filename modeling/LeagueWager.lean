import LeagueWager.Address
import LeagueWager.Address.Alphabet
import LeagueWager.Address.Escaped
import LeagueWager.Address.Host
import LeagueWager.Address.Label
import LeagueWager.Address.Name
import LeagueWager.Address.Path
import LeagueWager.Address.Punycode
import LeagueWager.Address.Respelling
import LeagueWager.Address.User
import LeagueWager.Checked
import LeagueWager.Config
import LeagueWager.Config.Reader
import LeagueWager.Date.Instant
import LeagueWager.Date.Reader
import LeagueWager.Date.Writer
import LeagueWager.Decimal.Shortest
import LeagueWager.Feed
import LeagueWager.Feed.History
import LeagueWager.Feed.Kept
import LeagueWager.Feed.Schedule
import LeagueWager.Feed.Traffic
import LeagueWager.Fixture
import LeagueWager.Folder
import LeagueWager.Http.Exchange
import LeagueWager.Http.Status
import LeagueWager.Json.Chars
import LeagueWager.Json.Decode
import LeagueWager.Json.Fault
import LeagueWager.Json.Grammar
import LeagueWager.Json.Numeral
import LeagueWager.Json.Reader
import LeagueWager.Json.Tree
import LeagueWager.Json.Value
import LeagueWager.Projection
import LeagueWager.Proofs.Budget
import LeagueWager.Proofs.Clubs
import LeagueWager.Proofs.Containment
import LeagueWager.Proofs.Ends
import LeagueWager.Proofs.Extremes
import LeagueWager.Proofs.Figures
import LeagueWager.Proofs.Money
import LeagueWager.Proofs.Orders
import LeagueWager.Proofs.Parties
import LeagueWager.Proofs.Swing
import LeagueWager.Provider
import LeagueWager.Reads
import LeagueWager.Reads.Course
import LeagueWager.Record.Mismatch
import LeagueWager.Record.Shape
import LeagueWager.Records
import LeagueWager.Season
import LeagueWager.Service
import LeagueWager.Settlement
import LeagueWager.Snapshot
import LeagueWager.Snapshot.Load
import LeagueWager.Source
import LeagueWager.Standing
import LeagueWager.Team
import LeagueWager.Text.Blank
import LeagueWager.Text.Cased
import LeagueWager.Text.CombiningClass
import LeagueWager.Text.Composed
import LeagueWager.Text.Composed.Pairs
import LeagueWager.Text.Digits
import LeagueWager.Text.Direction
import LeagueWager.Text.Joining
import LeagueWager.Text.LowerCase
import LeagueWager.Text.Marks
import LeagueWager.Text.Parts
import LeagueWager.Text.Printable
import LeagueWager.Text.Quoted
import LeagueWager.Text.Stretches
import LeagueWager.Toml.Chars
import LeagueWager.Toml.Decode
import LeagueWager.Toml.Document
import LeagueWager.Toml.Literal
import LeagueWager.Toml.Numeral
import LeagueWager.Toml.Table
import LeagueWager.Toml.Value
import LeagueWager.Wager
import LeagueWager.Proofs.Reuse
import LeagueWager.Proofs.Digits
import LeagueWager.Proofs.Spelling
import LeagueWager.Proofs.Calendar
import LeagueWager.Proofs.Decoding
import LeagueWager.Proofs.Moments
import LeagueWager.Proofs.Written
import LeagueWager.Proofs.Dump
import LeagueWager.Proofs.Decided
import LeagueWager.Proofs.Reordered
import LeagueWager.Proofs.Columns
import LeagueWager.Proofs.Meetings
import LeagueWager.Proofs.Aliases
import LeagueWager.Proofs.Decoded
import LeagueWager.Proofs.Asked
import LeagueWager.Proofs.Bounds
import LeagueWager.Proofs.Ranking
import LeagueWager.Proofs.Scores
import LeagueWager.Proofs.Replies
import LeagueWager.Proofs.Keys
import LeagueWager.Proofs.Latest
import LeagueWager.Proofs.Projected
import LeagueWager.Proofs.Surface
import LeagueWager.Proofs.Reading
import LeagueWager.Proofs.WellFormed
import LeagueWager.Proofs.Strict
import LeagueWager.Proofs.Members
import LeagueWager.Proofs.Evolution
import LeagueWager.Proofs.Accepted
