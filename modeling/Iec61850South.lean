import Iec61850South.Config.Assertions
import Iec61850South.Plugin.Reconfigure
import Iec61850South.Client.Absence
import Iec61850South.Client.Isolation
import Iec61850South.Client.Recovery
import Iec61850South.Client.Datasets
import Iec61850South.Client.Selection
import Iec61850South.Client.ThreadInvariant
import Iec61850South.Client.ThreadSafety
import Iec61850South.Client.Addresses
import Iec61850South.Client.Completeness
import Iec61850South.Client.Freshness
import Iec61850South.Client.Labels
import Iec61850South.Config.Polled
import Iec61850South.Config.Dictionaries
import Iec61850South.Client.AttributeNames
import Iec61850South.Client.DatasetLabels
import Iec61850South.Client.Splitting
import Iec61850South.Client.Modes
import Iec61850South.Client.Rebuild
import Iec61850South.Client.Visits
import Iec61850South.Client.Leaves
import Iec61850South.Client.Numbers
import Iec61850South.Plugin.Clients
import Iec61850South.Client.CallsRefinement
import Iec61850South.Client.ResourceSafety
import Iec61850South.Client.Sessions
import Iec61850South.Client.Progress
import Iec61850South.Plugin.SystemSafety
import Iec61850South.Plugin.SystemFeed
import Iec61850South.Plugin.SystemRefinement
import Iec61850South.Plugin.SystemClients
import Iec61850South.Plugin.SystemProgress
import Iec61850South.Config.Validity
import Iec61850South.Plugin.SystemLiveness
import Iec61850South.Client.ThreadRuns
