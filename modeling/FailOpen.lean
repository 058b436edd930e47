import FailOpen.Scenario.View
import FailOpen.Startup.Document
import FailOpen.Startup.Environment
import FailOpen.Traffic.Json
import FailOpen.Traffic.Show
import FailOpen.Proofs.Course.Operation
import FailOpen.Proofs.Course.Step
import FailOpen.Proofs.Loader.Resolve
import FailOpen.Proofs.Timeline.Basic
import FailOpen.Proofs.Timeline.Faithful
import FailOpen.Proofs.Timeline.Tracks
import FailOpen.Proofs.Timeline.Lawful
import FailOpen.Proofs.Bridge.Forwarding
import FailOpen.Proofs.Bridge.Coherence
import FailOpen.Proofs.Bridge.Attempt
import FailOpen.Proofs.Bridge.Reentrancy
import FailOpen.Proofs.Course.Holders
import FailOpen.Proofs.Course.Moment
import FailOpen.Proofs.Bridge.InFlight
import FailOpen.Proofs.Bridge.Indistinguishable
import FailOpen.Proofs.Bridge.Exports
import FailOpen.Proofs.Bridge.Classification
import FailOpen.Proofs.Bridge.Secrets
import FailOpen.Proofs.Bridge.Reporting
import FailOpen.Proofs.Startup.Handover
import FailOpen.Proofs.Startup.Environment
import FailOpen.Proofs.Startup.Document
import FailOpen.Proofs.Traffic.Representation
import FailOpen.Proofs.Traffic.Lossless
import FailOpen.Proofs.Analyzer.Lifetime
import FailOpen.Proofs.Text.Lossy
