import Fieldwise.Main
import Fieldwise.Value.Tagged
import Fieldwise.Proofs.Acceptance
import Fieldwise.Proofs.Supply
import Fieldwise.Proofs.Agreement
import Fieldwise.Proofs.Progress
import Fieldwise.Proofs.Refusal
import Fieldwise.Proofs.WellFormed
import Fieldwise.Proofs.Mismatch
import Fieldwise.Proofs.Loaded
import Fieldwise.Proofs.Nesting
import Fieldwise.Proofs.Stack
import Fieldwise.Proofs.Precedence
import Fieldwise.Proofs.Selection
import Fieldwise.Proofs.Untouched
import Fieldwise.Proofs.Extension
import Fieldwise.Proofs.Fitting
import Fieldwise.Proofs.Rearrangement
import Fieldwise.Proofs.RoundTrip
import Fieldwise.Proofs.Contract
import Fieldwise.Proofs.Erasure
import Fieldwise.Proofs.Scanning
import Fieldwise.Proofs.Inclusion
import Fieldwise.Proofs.Spelling
import Fieldwise.Proofs.Resolution
import Fieldwise.Proofs.Listing
import Fieldwise.Proofs.Registration
import Fieldwise.Proofs.Exactness
import Fieldwise.Proofs.Equality
import Fieldwise.Proofs.Slots
import Fieldwise.Proofs.Naming
