import BooleanSearch.Main
import BooleanSearch.Proofs.Automaton
import BooleanSearch.Proofs.Canonical
import BooleanSearch.Proofs.Content
import BooleanSearch.Proofs.DepthLimit
import BooleanSearch.Proofs.FilterReading
import BooleanSearch.Proofs.Grammar
import BooleanSearch.Proofs.Joining
import BooleanSearch.Proofs.JsonReading
import BooleanSearch.Proofs.JsonRoundTrip
import BooleanSearch.Proofs.KeptTerm
import BooleanSearch.Proofs.Keyword
import BooleanSearch.Proofs.Legible
import BooleanSearch.Proofs.Literal
import BooleanSearch.Proofs.Nesting
import BooleanSearch.Proofs.Normalisation
import BooleanSearch.Proofs.Parentheses
import BooleanSearch.Proofs.Rereading
import BooleanSearch.Proofs.RoundTrip
import BooleanSearch.Proofs.Scanning
import BooleanSearch.Proofs.Shape
import BooleanSearch.Proofs.Template
import BooleanSearch.Proofs.Trimming
import BooleanSearch.Session
import BooleanSearch.Proofs.RunHeads
import BooleanSearch.Proofs.Bracketing
import BooleanSearch.Proofs.ReadingLog
import BooleanSearch.Proofs.FirstFailure
import BooleanSearch.Proofs.OutlineReading
import BooleanSearch.Proofs.Quoting
import BooleanSearch.Proofs.SettingsLayers
import BooleanSearch.Proofs.Delivery
