import ContextServer.Host.Inbound

/-!
# Providers

Where clients connect. A *provider* starts without a server, and no client can
connect to it then; a server is bound to it once (`Provider.bind`), and from then
on it is a host.
-/

namespace ContextServer

/-- A place where clients connect. -/
structure Provider where
  /-- What the links are carried over. -/
  medium : Medium
  /-- Where names come from. -/
  naming : Naming
  /-- The host, once there is a server. -/
  host : Option Host := none

namespace Provider

/-- The provider with another host. -/
def withHost (p : Provider) (host : Host) : Provider := { p with host := some host }

/-- A server is bound to the provider, unless one was before. -/
def bind (p : Provider) (config : ServerConfig) : Except Failure Provider :=
  match p.host with
  | none => .ok (p.withHost { medium := p.medium, naming := p.naming, server := { config } })
  | some _ => .error (.transport .alreadyBound)

/-- A client connects. -/
def connect (p : Provider) : Except TransportError (Nat × Provider) :=
  match p.host with
  | none => .error .notBound
  | some host =>
    let (i, host) := host.connect
    .ok (i, p.withHost host)

/-- Something happens to the host, if there is one. -/
def onHost (p : Provider) (f : Host → Host) : Provider := { p with host := p.host.map f }

end Provider

end ContextServer
