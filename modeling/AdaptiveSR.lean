import AdaptiveSR.Config
import AdaptiveSR.Control
import AdaptiveSR.Metrics
import AdaptiveSR.System
import AdaptiveSR.Binary64
import AdaptiveSR.Rounded
import AdaptiveSR.Budget
import AdaptiveSR.Aggressiveness
import AdaptiveSR.Disabled
import AdaptiveSR.Counters
import AdaptiveSR.Response
import AdaptiveSR.ConfigLock
import AdaptiveSR.Lifecycle
import AdaptiveSR.Clock
import AdaptiveSR.Reinit
import AdaptiveSR.Replay
import AdaptiveSR.Snapshot
