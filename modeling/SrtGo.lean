import SrtGo.Basic
import SrtGo.SocketIO
import SrtGo.ReadWrite
import SrtGo.ReadBatch
import SrtGo.PollServer
import SrtGo.Dispatch
import SrtGo.RegistryLock
import SrtGo.Wakeup
import SrtGo.CallerRefinement
import SrtGo.Logging
import SrtGo.Strconv
import SrtGo.Options
