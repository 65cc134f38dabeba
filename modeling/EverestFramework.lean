import EverestFramework.Error.Database
import EverestFramework.Error.ManagerReqGlobal
import EverestFramework.Error.Bus
import EverestFramework.Error.Fanout
import EverestFramework.Error.Concurrent
import EverestFramework.Error.Abstraction
import EverestFramework.Manager.ReadyBarrier
import EverestFramework.Manager.StartModules
import EverestFramework.Manager.Boot
import EverestFramework.Manager.AdminPanel
import EverestFramework.Manager.ExecModule
import EverestFramework.Manager.BootSequence
import EverestFramework.Manager.StartPostcondition
import EverestFramework.Manager.AdminRestart
import EverestFramework.Manager.StartController
import EverestFramework.System.SubProcess
import EverestFramework.System.Format
import EverestFramework.System.Capabilities
import EverestFramework.System.RealUser
