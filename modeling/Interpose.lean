import Interpose.Expansion.Expand
import Interpose.Proofs.Conversion.RoundTrip
import Interpose.Proofs.Dispatch.ByName
import Interpose.Proofs.Dispatch.Transparency
import Interpose.Proofs.Expansion.Substitution
import Interpose.Proofs.Fleet.Run
import Interpose.Session.Run
import Interpose.Proofs.Cache.Cells
import Interpose.Proofs.Dispatch.Observation
import Interpose.Proofs.Cache.Answer
import Interpose.Proofs.Cache.Usage
import Interpose.Proofs.Cache.Memoisation
import Interpose.Proofs.Concurrent.Machine
import Interpose.Proofs.Concurrent.Invariant
import Interpose.Proofs.Concurrent.Alone
import Interpose.Proofs.Concurrent.SingleFlight
import Interpose.Proofs.Dispatch.Wiring
import Interpose.Proofs.Dispatch.Guard
import Interpose.Proofs.Expansion.Lineup
import Interpose.Proofs.Expansion.Eligibility
import Interpose.Proofs.Synthesis.Acceptance
import Interpose.Proofs.Dispatch.Narrowing
import Interpose.Proofs.Process.Numbering
import Interpose.Proofs.Process.Maintenance
import Interpose.Proofs.Dispatch.Interchange
import Interpose.Proofs.Dispatch.Capture
import Interpose.Proofs.Dispatch.Survival
import Interpose.Proofs.Fleet.Capture
import Interpose.Proofs.Instance.Construction
import Interpose.Proofs.Conversion.Exactness
import Interpose.Proofs.Cache.Building
import Interpose.Proofs.Cache.Purging
import Interpose.Proofs.Process.Recoding
import Interpose.Proofs.Process.Creation
import Interpose.Proofs.Dispatch.Wrapping
import Interpose.Proofs.Dispatch.Tracing
import Interpose.Proofs.Cache.Logging
import Interpose.Proofs.Fleet.Wrapping
import Interpose.Proofs.Fleet.Tracing
import Interpose.Proofs.Expansion.Scoping
import Interpose.Proofs.Expansion.Spelling
import Interpose.Proofs.Conversion.Equality
import Interpose.Proofs.Expansion.Marking
import Interpose.Proofs.Expansion.Refusal
import Interpose.Proofs.Expansion.Shadowing
import Interpose.Proofs.Expansion.Hygiene
import Interpose.Proofs.Expansion.TypeGrammar
