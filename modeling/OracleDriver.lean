import OracleDriver.ParseQueryTokens
import OracleDriver.EntryPoints
import OracleDriver.Rows
import OracleDriver.Outputs
import OracleDriver.SessionInfo
import OracleDriver.AtMostOnce
import OracleDriver.CallGuard
import OracleDriver.AQSubscriptions
import OracleDriver.AQHandles
import OracleDriver.DriverWalk
import OracleDriver.SelectKeys
import OracleDriver.NumberConversions
import OracleDriver.DateBinds
import OracleDriver.AQDispatcher
import OracleDriver.AQWatchdog
import OracleDriver.AQNotifications
import OracleDriver.MutationStream
import OracleDriver.RecoveryDepth
import OracleDriver.DecimalParsing
import OracleDriver.OptimalNumbers
import OracleDriver.MarkerRuns
import OracleDriver.ArraySizes
import OracleDriver.ArrayElements
import OracleDriver.FetchErrors
import OracleDriver.AQWaitTime
import OracleDriver.ColumnarNumbers
import OracleDriver.LobAttributes
import OracleDriver.LobChunks
import OracleDriver.RecvTimeout
import OracleDriver.SessionRestore
import OracleDriver.LoadIdentifiers
import OracleDriver.ColumnarSelect
import OracleDriver.LongFetch
import OracleDriver.ObjectLayout
import OracleDriver.ObjectRoundTrip
import OracleDriver.TypeCache
import OracleDriver.CancelHelper
import OracleDriver.LoadPaths
