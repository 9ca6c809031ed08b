import Restyle.Bus
import Restyle.Client.Transport
import Restyle.Main
import Restyle.Proofs.Sheet.Filler
import Restyle.Proofs.Sheet.Scan
import Restyle.Proofs.Sheet.Block
import Restyle.Proofs.Change.Diff
import Restyle.Proofs.Change.Landing
import Restyle.Proofs.Disk.Path
import Restyle.Proofs.Disk.Stylesheets
import Restyle.Proofs.Index
import Restyle.Proofs.Match.Best
import Restyle.Proofs.Patch
import Restyle.Proofs.Service.Contained
import Restyle.Proofs.Service.Diff
import Restyle.Proofs.Sheet.Gap
import Restyle.Proofs.Text.Trim
import Restyle.Proofs.Sheet.Quoted
import Restyle.Proofs.Patch.Retained
import Restyle.Proofs.Service.Tracked
import Restyle.Proofs.Service.Coherent
import Restyle.Proofs.Service.Interleaved
import Restyle.Proofs.Queue.Sequential
import Restyle.Proofs.Queue.Stop
import Restyle.Proofs.Service.Searched
import Restyle.Proofs.Service.Update
import Restyle.Proofs.Sheet.Assembled
import Restyle.Proofs.Service.Wire
import Restyle.Proofs.Service.Commuting
import Restyle.Proofs.Service.Repeated
import Restyle.Proofs.Sheet.Format
import Restyle.Proofs.Sheet.Appended
import Restyle.Proofs.Queue.Delayed
import Restyle.Proofs.Sheet.Spans
import Restyle.Proofs.Match.Greatest
import Restyle.Proofs.Service.Rearranged
import Restyle.Proofs.Change.Exact
import Restyle.Proofs.Service.Validated
import Restyle.Proofs.Match.Mentioned
import Restyle.Proofs.Index.Rescanned
import Restyle.Proofs.Service.Configured
import Restyle.Proofs.Service.Located
import Restyle.Proofs.Match.Ranked
import Restyle.Proofs.Service.Recorded
import Restyle.Proofs.Agent.Answered
import Restyle.Proofs.Change.Merged
import Restyle.Proofs.Disk.Containment
