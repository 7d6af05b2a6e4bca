import ZdmProxy.Cql.Syntax
import ZdmProxy.Cql.Statements
import ZdmProxy.Cql.Listener
import ZdmProxy.Execute.PreparedResponse
import ZdmProxy.Routing.PreparedStatementCache
import ZdmProxy.Routing.BuildRequestInfo
import ZdmProxy.Handler.RequestContext
import ZdmProxy.Conn.StreamIdMapper
import ZdmProxy.Handler.AsyncConnector
import ZdmProxy.Handler.ClientHandler
import ZdmProxy.Handler.Handshake
import ZdmProxy.Cql.Positions
import ZdmProxy.Cql.Replace
import ZdmProxy.Execute.ParameterModifier
import ZdmProxy.Execute.NowReplacement
import ZdmProxy.Execute.TimeUuid
import ZdmProxy.Handler.Auth
import ZdmProxy.Control.AssignedHosts
import ZdmProxy.Control.VirtualHosts
import ZdmProxy.Config.Buckets
import ZdmProxy.Lib.ExceptMap
import ZdmProxy.Conn.CqlConn
import ZdmProxy.Control.SystemPeers
import ZdmProxy.Conn.Coalescer
import ZdmProxy.Cql.Batch
import ZdmProxy.Execute.NamedMarkers
import ZdmProxy.Lib.Hex
import ZdmProxy.Lib.KeyedLists
import ZdmProxy.Control.Hosts
import ZdmProxy.Control.Refresh
import ZdmProxy.Control.Topology
import ZdmProxy.Control.Intercept
import ZdmProxy.Handler.AsyncStreamIds
import ZdmProxy.Lib.Utf8
import ZdmProxy.Cql.QueryText
