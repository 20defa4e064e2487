import MachineArgs.Address.Internet
import MachineArgs.Encoding
import MachineArgs.Handle

/-!
# Character devices

Backends of character devices are options of the group `chardev`. They share their first slots,
the kind of backend, its name, and whether it is multiplexed, as an embedded record.
-/

namespace MachineArgs

/-- The slots that every backend starts with: `-chardev <kind>,id=<name>,mux=<on|off>`. -/
structure ChardevBase where
  /-- The kind of backend. -/
  kind : String
  /-- The name of the backend. -/
  name : String
  /-- Whether several devices may share the backend. -/
  mux : Option Bool := none

namespace ChardevBase

/-- The fields that every backend starts with. -/
def schema : Schema :=
  ⟨"CharDev",
    [.group "chardev",
     .field (.unnamed "kind"),
     .field (.named "name" "id"),
     .field (.plain "mux")]⟩

instance : ToValue ChardevBase where
  toValue b := .record schema [toValue b.kind, toValue b.name, toValue b.mux]

end ChardevBase

/-- A backend that drops what is written to it. -/
structure NullChardev where
  /-- The name of the backend. -/
  name : String := ""
  /-- Whether several devices may share the backend. -/
  mux : Option Bool := none

instance : ToValue NullChardev where
  toValue c := toValue (ChardevBase.mk "null" c.name c.mux)

/-- The kinds of backends that a path on the host names. -/
inductive PathKind where
  /-- A file. -/
  | file
  /-- A named pipe. -/
  | pipe
  /-- A serial line. -/
  | serial
deriving DecidableEq

/-- How a kind is written. -/
def PathKind.text : PathKind → String
  | file => "file"
  | pipe => "pipe"
  | serial => "serial"

/-- A backend that a path on the host names: `-chardev file,id=log0,path=/tmp/serial.log`. -/
structure PathChardev where
  /-- The kind of backend. -/
  kind : PathKind := .file
  /-- The name of the backend. -/
  name : String := ""
  /-- Whether several devices may share the backend. -/
  mux : Option Bool := none
  /-- The path. -/
  path : String := ""

namespace PathChardev

/-- The fields of a backend at a path. -/
def schema : Schema :=
  ⟨"PathCharDev", [.field (.embedded "chardev"), .field (.plain "path")]⟩

instance : ToValue PathChardev where
  toValue c := .record schema
    [toValue (ChardevBase.mk c.kind.text c.name c.mux), toValue c.path]

end PathChardev

/-- Options of every backend over a socket. -/
structure SocketOptions where
  /-- The backend listens. -/
  server : Option Bool := none
  /-- A listening backend waits for its first client. -/
  wait : Option Bool := none
  /-- The telnet protocol is spoken. -/
  telnet : Option Bool := none
  /-- The websocket protocol is spoken. -/
  websocket : Option Bool := none
  /-- Seconds between attempts to connect again. -/
  reconnect : Option Nat := none

namespace SocketOptions

/-- The fields of socket options. -/
def schema : Schema :=
  ⟨"SocketOptions",
    [.field (.plain "server"),
     .field (.plain "wait"),
     .field (.plain "telnet"),
     .field (.plain "websocket"),
     .field (.plain "reconnect")]⟩

instance : ToValue SocketOptions where
  toValue o := .record schema
    [toValue o.server, toValue o.wait, toValue o.telnet, toValue o.websocket,
     toValue o.reconnect]

end SocketOptions

/-- A backend over a connected socket that the emulator inherits. -/
structure FdSocket where
  /-- The name of the backend. -/
  name : String := ""
  /-- Whether several devices may share the backend. -/
  mux : Option Bool := none
  /-- Options of the socket. -/
  socket : SocketOptions := {}
  /-- The number of the descriptor. -/
  fd : Nat := 0

namespace FdSocket

/-- The fields of a backend over an inherited socket. -/
def schema : Schema :=
  ⟨"FdSocket",
    [.field (.embedded "chardev"), .field (.embedded "socket"), .field (.plain "fd")]⟩

instance : ToValue FdSocket where
  toValue c := .record schema
    [toValue (ChardevBase.mk "socket" c.name c.mux), toValue c.socket, toValue c.fd]

end FdSocket

/-- A backend over TCP. -/
structure TcpSocket where
  /-- The name of the backend. -/
  name : String := ""
  /-- Whether several devices may share the backend. -/
  mux : Option Bool := none
  /-- The host to connect to or to listen on. -/
  host : String := ""
  /-- The port. -/
  port : Option Nat := none
  /-- Short addresses may be used. -/
  ipv4 : Option Bool := none
  /-- Long addresses may be used. -/
  ipv6 : Option Bool := none
  /-- Options of the socket. -/
  socket : SocketOptions := {}
  /-- The last port to try to listen on. -/
  lastPort : Option Nat := none
  /-- Small packets are sent at once. -/
  nodelay : Option Bool := none

namespace TcpSocket

/-- The fields of a backend over TCP. -/
def schema : Schema :=
  ⟨"TcpSocket",
    [.field (.embedded "chardev"),
     .field (.plain "host"),
     .field (.plain "port"),
     .field (.plain "ipv4"),
     .field (.plain "ipv6"),
     .field (.embedded "socket"),
     .field (.plain "to"),
     .field (.plain "nodelay")]⟩

instance : ToValue TcpSocket where
  toValue c := .record schema
    [toValue (ChardevBase.mk "socket" c.name c.mux), toValue c.host, toValue c.port,
     toValue c.ipv4, toValue c.ipv6, toValue c.socket, toValue c.lastPort, toValue c.nodelay]

end TcpSocket

/-- A backend over a socket in the file system or in the abstract namespace. -/
structure UnixSocket where
  /-- The name of the backend. -/
  name : String := ""
  /-- Whether several devices may share the backend. -/
  mux : Option Bool := none
  /-- Options of the socket. -/
  socket : SocketOptions := {}
  /-- The path or the abstract name. -/
  path : String := ""
  /-- The socket is in the abstract namespace. -/
  isAbstract : Option Bool := none
  /-- The abstract name is not padded. -/
  tight : Option Bool := none

namespace UnixSocket

/-- The fields of a backend over a local socket. -/
def schema : Schema :=
  ⟨"UnixSocket",
    [.field (.embedded "chardev"),
     .field (.embedded "socket"),
     .field (.plain "path"),
     .field (.named "is_abstract" "abstract"),
     .field (.plain "tight")]⟩

instance : ToValue UnixSocket where
  toValue c := .record schema
    [toValue (ChardevBase.mk "socket" c.name c.mux), toValue c.socket, toValue c.path,
     toValue c.isAbstract, toValue c.tight]

end UnixSocket

/-- A backend over UDP. -/
structure UdpSocket where
  /-- The name of the backend. -/
  name : String := ""
  /-- Whether several devices may share the backend. -/
  mux : Option Bool := none
  /-- The host to send to. -/
  host : String := ""
  /-- The port to send to. -/
  port : Option Nat := none
  /-- Short addresses may be used. -/
  ipv4 : Option Bool := none
  /-- Long addresses may be used. -/
  ipv6 : Option Bool := none
  /-- The address to receive on. -/
  localAddress : Option InternetAddress := none
  /-- The port to receive on. -/
  localPort : Nat := 0

namespace UdpSocket

/-- The fields of a backend over UDP. -/
def schema : Schema :=
  ⟨"UdpSocket",
    [.field (.embedded "chardev"),
     .field (.plain "host"),
     .field (.plain "port"),
     .field (.plain "ipv4"),
     .field (.plain "ipv6"),
     .field (.plain "local_addr"),
     .field (.plain "local_port")]⟩

instance : ToValue UdpSocket where
  toValue c := .record schema
    [toValue (ChardevBase.mk "udp" c.name c.mux), toValue c.host, toValue c.port,
     toValue c.ipv4, toValue c.ipv6, toValue c.localAddress, toValue c.localPort]

end UdpSocket

/-- A connected pair of sockets whose guest end the emulator inherits. -/
structure SocketPair where
  /-- The name of the backend. -/
  name : String
  /-- The end that the emulator inherits. -/
  guest : Handle

namespace SocketPair

/-- A new pair under a name. -/
def create (name : String) : SocketPair where
  name := name
  guest := .guestEnd name

/-- The value of a pair: a backend over the guest end. -/
def value (p : SocketPair) : Except Error Value := do
  let fd ← p.guest.requireIndex
  return toValue { name := p.name, fd := fd : FdSocket }

/-- The arguments of a pair. -/
def args (p : SocketPair) : Except Error (List String) := do
  let v ← p.value
  v.args none

end SocketPair

end MachineArgs
