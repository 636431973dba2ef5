import DeckPlan.Main
import DeckPlan.Outside.World
import DeckPlan.Proofs.Markup.Line
import DeckPlan.Proofs.Markup.Range
import DeckPlan.Proofs.Markup.LineRange
import DeckPlan.Proofs.Markup.PlainText
import DeckPlan.Proofs.Markup.RoundTrip
import DeckPlan.Proofs.Outside.Dialogue
import DeckPlan.Proofs.Outside.Order
import DeckPlan.Proofs.Json.Access
import DeckPlan.Proofs.Text.Numeral
import DeckPlan.Proofs.Text.Trim
import DeckPlan.Proofs.Guard.Phrase
import DeckPlan.Proofs.Sheets.Listing
import DeckPlan.Proofs.Sheets.Chart
import DeckPlan.Proofs.Slides.Topic
import DeckPlan.Proofs.Slides.Deck
import DeckPlan.Proofs.Slides.Batch
import DeckPlan.Proofs.Sheets.Book
import DeckPlan.Proofs.Slides.History
import DeckPlan.Proofs.Topics.Report
import DeckPlan.Proofs.Guard.Inputs
import DeckPlan.Proofs.Sheets.Served
import DeckPlan.Proofs.Slides.Writable
import DeckPlan.Proofs.CommandLine.Parties
import DeckPlan.Proofs.Guard.Verdict
import DeckPlan.Proofs.CommandLine.Gate
import DeckPlan.Proofs.Outside.Course
import DeckPlan.Proofs.Slides.Failure
import DeckPlan.Proofs.CommandLine.Stages
import DeckPlan.Proofs.CommandLine.Lookup
import DeckPlan.Proofs.CommandLine.Escape
import DeckPlan.Proofs.CommandLine.Output
import DeckPlan.Proofs.CommandLine.Targets
import DeckPlan.Proofs.Markup.Parting
import DeckPlan.Proofs.Markup.Concatenation
import DeckPlan.Proofs.Markup.SecondPass
import DeckPlan.Proofs.Topics.Answer
import DeckPlan.Proofs.Topics.Points
import DeckPlan.Proofs.Topics.Tidy
import DeckPlan.Proofs.Sheets.Drawing
import DeckPlan.Proofs.Text.Occurrence
import DeckPlan.Proofs.Text.Run
import DeckPlan.Proofs.Text.Case
import DeckPlan.Proofs.Json.Equality
import DeckPlan.Proofs.Image.Score
import DeckPlan.Proofs.Image.Search
import DeckPlan.Proofs.Sheets.Cleanup
import DeckPlan.Proofs.Model.Attempt
import DeckPlan.Proofs.Guard.Retry
import DeckPlan.Proofs.Topics.Retry
import DeckPlan.Proofs.Image.Check
import DeckPlan.Proofs.CommandLine.Images
import DeckPlan.Proofs.Outside.Files
import DeckPlan.Proofs.Outside.Authorization
import DeckPlan.Proofs.Guard.Gibberish
