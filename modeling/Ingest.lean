import Ingest.Host.Interleaving
import Ingest.Load.Timeline
import Ingest.Main
import Ingest.Proofs.Dialogue
import Ingest.Proofs.Load.Exchange
import Ingest.Proofs.Load.Submission
import Ingest.Proofs.Load.Course
import Ingest.Proofs.Host.Interleaving
import Ingest.Proofs.Http.Header
import Ingest.Proofs.Settings.Spelling
import Ingest.Proofs.Text.Utf8
import Ingest.Proofs.Load.Headers
import Ingest.Proofs.Load.Schedule
import Ingest.Proofs.Load.Timeline
import Ingest.Proofs.Load.Rounds
import Ingest.Proofs.Load.Cancellation
import Ingest.Proofs.Load.Redirects
import Ingest.Proofs.Load.Identity
import Ingest.Proofs.Keyed
import Ingest.Proofs.Store.Response
import Ingest.Proofs.Load.Diagnosis
import Ingest.Proofs.Load.Setup
import Ingest.Proofs.Host.Place
import Ingest.Proofs.Host.Slots
import Ingest.Proofs.Load.Account
import Ingest.Proofs.Load.Interruption
import Ingest.Proofs.Url.Form
import Ingest.Proofs.Load.Addressing
import Ingest.Proofs.Payload.Cutting
import Ingest.Proofs.Json.Extent
import Ingest.Proofs.Payload.Delimiter
import Ingest.Proofs.Command.DryRun
import Ingest.Proofs.Json.Nesting
import Ingest.Proofs.Payload.Items
import Ingest.Proofs.Host.Alone
import Ingest.Proofs.Json.Grammar
import Ingest.Proofs.Load.Defaults
import Ingest.Proofs.Payload.Rows
import Ingest.Proofs.Json.Lexeme
import Ingest.Proofs.Store.StateReply
import Ingest.Proofs.Load.Belief
import Ingest.Proofs.Load.Columns
import Ingest.Proofs.Load.Labelling
import Ingest.Proofs.Load.LastRound
import Ingest.Proofs.Json.Printing
import Ingest.Proofs.Json.Numbers
import Ingest.Proofs.Store.Rereading
import Ingest.Proofs.Settings.Durations
import Ingest.Proofs.Payload.Size
import Ingest.Proofs.Host.Scheme
import Ingest.Proofs.Load.ClockRange
