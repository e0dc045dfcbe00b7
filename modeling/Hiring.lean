import Hiring.Http.Api
import Hiring.Main
import Hiring.Storage.Outage
import Hiring.Proofs.Screening.Rejection
import Hiring.Proofs.Binary64.Order
import Hiring.Proofs.Screening.ScoreGate
import Hiring.Proofs.Office.Operations
import Hiring.Proofs.Office.Requests
import Hiring.Proofs.Office.StoredScreening
import Hiring.Proofs.Office.Interleaving
import Hiring.Proofs.Office.Touches
import Hiring.Proofs.Office.LostUpdates
import Hiring.Proofs.Office.Histories
import Hiring.Proofs.Binary64.Scaling
import Hiring.Proofs.Decimal.Value
import Hiring.Proofs.Decimal.ReadBack
import Hiring.Proofs.Answer.Reading
import Hiring.Proofs.Answer.ReadBack
import Hiring.Proofs.Criterion.Retyping
import Hiring.Proofs.Criterion.PointwiseRetyping
import Hiring.Proofs.Screening.RetypedAnswers
import Hiring.Proofs.Office.Applications
import Hiring.Proofs.Office.EntryPoints
import Hiring.Proofs.Office.StageHistory
import Hiring.Proofs.Screening.ScoreLayer
import Hiring.Proofs.Office.Numbering
import Hiring.Proofs.Office.Ownership
import Hiring.Proofs.Office.Transcripts
import Hiring.Proofs.Office.Ledger
import Hiring.Proofs.Office.Identifiers
import Hiring.Proofs.Office.Validation
import Hiring.Proofs.Office.Failures
import Hiring.Proofs.Office.SubmittedData
import Hiring.Proofs.Binary64.Monotone
import Hiring.Proofs.Criterion.Bounds
import Hiring.Proofs.Screening.AskedAnswers
import Hiring.Proofs.Screening.BetterAnswers
import Hiring.Proofs.Screening.Independence
import Hiring.Proofs.Json.Numeral
import Hiring.Proofs.Json.Spelling
import Hiring.Proofs.Json.Layout
import Hiring.Proofs.Json.ReadBack
import Hiring.Proofs.Json.Records
import Hiring.Proofs.Timestamp.ReadBack
import Hiring.Proofs.Documents
import Hiring.Proofs.Text.LetterCase
import Hiring.Proofs.Decimal.Grammar
import Hiring.Proofs.Criterion.RuleGrammar
import Hiring.Proofs.Criterion.RuleSpellings
import Hiring.Proofs.Criterion.Trichotomy
import Hiring.Proofs.Text.Pieces
import Hiring.Proofs.Criterion.AllowedTexts
import Hiring.Proofs.Office.StoredLabels
import Hiring.Proofs.Timestamp.Order
import Hiring.Proofs.Office.Traversals
import Hiring.Proofs.Office.Registers
import Hiring.Proofs.Office.Listings
import Hiring.Proofs.Office.Rescreenings
import Hiring.Proofs.Text.SmallLetters
import Hiring.Proofs.Criterion.ShownTexts
import Hiring.Proofs.Http.Addresses
import Hiring.Proofs.Http.Responses
