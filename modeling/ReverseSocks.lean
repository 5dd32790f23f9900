import ReverseSocks.Basic
import ReverseSocks.Mux.Protocol
import ReverseSocks.Mux.Codec
import ReverseSocks.Socks5.Handler
import ReverseSocks.Socks5.Grammar
import ReverseSocks.Socks5.Session
import ReverseSocks.Socks5.Reads
import ReverseSocks.Tcp.Connection
import ReverseSocks.Tcp.SendQueue
import ReverseSocks.Tcp.ReadPump
import ReverseSocks.Channel.Basic
import ReverseSocks.Channel.Lifecycle
import ReverseSocks.Channel.FlowControl
import ReverseSocks.Channel.Trace
import ReverseSocks.Channel.Handshake
import ReverseSocks.Mux.Session
import ReverseSocks.Mux.Registry
import ReverseSocks.Channel.Windows
import ReverseSocks.Mux.Delivery
import ReverseSocks.Channel.Interleaving
import ReverseSocks.Transport.Ssl
import ReverseSocks.Transport.Handshake
import ReverseSocks.Config.Atoi
import ReverseSocks.Config.Client
import ReverseSocks.Config.Proxy
import ReverseSocks.Client.Reconnect
import ReverseSocks.Log.Buffer
import ReverseSocks.Io.Engine
import ReverseSocks.Io.Relay
import ReverseSocks.Io.Lifetime
