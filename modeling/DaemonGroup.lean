import DaemonGroup.Channel.Defs
import DaemonGroup.Channel.Extraction
import DaemonGroup.Channel.Framing
import DaemonGroup.Channel.Posting
import DaemonGroup.Eag.Appconn
import DaemonGroup.Eag.Authenticators
import DaemonGroup.Eag.Blkmem
import DaemonGroup.Eag.Blocks
import DaemonGroup.Eag.Clock
import DaemonGroup.Eag.Demux
import DaemonGroup.Eag.Flux
import DaemonGroup.Eag.Hansi
import DaemonGroup.Eag.HansiRuns
import DaemonGroup.Eag.Indexes
import DaemonGroup.Eag.Packets
import DaemonGroup.Eag.Portal
import DaemonGroup.Eag.PortalAcks
import DaemonGroup.Eag.PortalAttrs
import DaemonGroup.Eag.PortalBounds
import DaemonGroup.Eag.PortalCount
import DaemonGroup.Eag.PortalIds
import DaemonGroup.Eag.PortalKeeps
import DaemonGroup.Eag.PortalMarks
import DaemonGroup.Eag.PortalProc
import DaemonGroup.Eag.PortalSess
import DaemonGroup.Eag.PortalSpec
import DaemonGroup.Eag.PortalSpoof
import DaemonGroup.Eag.PortalTimers
import DaemonGroup.Eag.Radius
import DaemonGroup.Eag.RadiusAdditions
import DaemonGroup.Eag.RadiusAttr
import DaemonGroup.Eag.RadiusSession
import DaemonGroup.Eag.Rdc
import DaemonGroup.Eag.Slots
import DaemonGroup.Eag.Supervision
import DaemonGroup.Eag.Sync
import DaemonGroup.Eag.SyncRuns
import DaemonGroup.Eag.Userconn
import DaemonGroup.Kernel.Channels
import DaemonGroup.Kernel.Packets
import DaemonGroup.Kernel.Rcu
import DaemonGroup.Kernel.Tables
import DaemonGroup.Lib.Acts
import DaemonGroup.Lib.Attrs
import DaemonGroup.Lib.Bitmap
import DaemonGroup.Lib.Buckets
import DaemonGroup.Lib.Bytes
import DaemonGroup.Lib.Chain
import DaemonGroup.Lib.Dictionary
import DaemonGroup.Lib.Dll
import DaemonGroup.Lib.Fields
import DaemonGroup.Lib.Framing
import DaemonGroup.Lib.Hiding
import DaemonGroup.Lib.Hops
import DaemonGroup.Lib.Hosts
import DaemonGroup.Lib.Listing
import DaemonGroup.Lib.Machine
import DaemonGroup.Lib.Partial
import DaemonGroup.Lib.Reads
import DaemonGroup.Lib.Replica
import DaemonGroup.Lib.Run
import DaemonGroup.Lib.State
import DaemonGroup.Lib.Stores
import DaemonGroup.Lib.Tags
import DaemonGroup.Lib.Threeway
import DaemonGroup.Lib.Tiling
import DaemonGroup.Lib.Tlv
import DaemonGroup.Pppoe.Accounting
import DaemonGroup.Pppoe.Active
import DaemonGroup.Pppoe.Addresses
import DaemonGroup.Pppoe.Admission
import DaemonGroup.Pppoe.Agreement
import DaemonGroup.Pppoe.Buffers
import DaemonGroup.Pppoe.Bus
import DaemonGroup.Pppoe.BusFifo
import DaemonGroup.Pppoe.Challenge
import DaemonGroup.Pppoe.Change
import DaemonGroup.Pppoe.Control
import DaemonGroup.Pppoe.Creation
import DaemonGroup.Pppoe.Defs
import DaemonGroup.Pppoe.Discover
import DaemonGroup.Pppoe.DiscoverTags
import DaemonGroup.Pppoe.Forgery
import DaemonGroup.Pppoe.Ids
import DaemonGroup.Pppoe.Invariant
import DaemonGroup.Pppoe.Ippool
import DaemonGroup.Pppoe.IppoolRange
import DaemonGroup.Pppoe.Isolation
import DaemonGroup.Pppoe.Lcp
import DaemonGroup.Pppoe.Manage
import DaemonGroup.Pppoe.Md5
import DaemonGroup.Pppoe.MemCache
import DaemonGroup.Pppoe.Move
import DaemonGroup.Pppoe.Ncp
import DaemonGroup.Pppoe.Owners
import DaemonGroup.Pppoe.Proto
import DaemonGroup.Pppoe.RadiusAdd
import DaemonGroup.Pppoe.RadiusAttrs
import DaemonGroup.Pppoe.RadiusPacket
import DaemonGroup.Pppoe.RadiusReply
import DaemonGroup.Pppoe.RadiusReq
import DaemonGroup.Pppoe.References
import DaemonGroup.Pppoe.Reports
import DaemonGroup.Pppoe.Rules
import DaemonGroup.Pppoe.Send
import DaemonGroup.Pppoe.Session
import DaemonGroup.Pppoe.Sessions
import DaemonGroup.Pppoe.Slab
import DaemonGroup.Pppoe.Standby
import DaemonGroup.Pppoe.Steps
import DaemonGroup.Pppoe.System
import DaemonGroup.Pppoe.Termination
import DaemonGroup.Pppoe.Terms
import DaemonGroup.Pppoe.Threads
import DaemonGroup.Pppoe.Timers
import DaemonGroup.Pppoe.View
import DaemonGroup.Radius.Password
import DaemonGroup.Snooping.Ageing
import DaemonGroup.Snooping.Bindings
import DaemonGroup.Snooping.Hosts
import DaemonGroup.Snooping.Ipv6
import DaemonGroup.Snooping.Isolation
import DaemonGroup.Snooping.Leases
import DaemonGroup.Snooping.Mirrors
import DaemonGroup.Snooping.Packets
import DaemonGroup.Snooping.Replies
import DaemonGroup.Snooping.Tables
import DaemonGroup.Snooping.Unresolved
import DaemonGroup.Stp.Bpdu
import DaemonGroup.Stp.Config
import DaemonGroup.Stp.Digest
import DaemonGroup.Stp.Forwarding
import DaemonGroup.Stp.Hello
import DaemonGroup.Stp.Messages
import DaemonGroup.Stp.Migration
import DaemonGroup.Stp.Partition
import DaemonGroup.Stp.PortInfo
import DaemonGroup.Stp.Ports
import DaemonGroup.Stp.Receive
import DaemonGroup.Stp.Registry
import DaemonGroup.Stp.Roles
import DaemonGroup.Stp.RoundTrip
import DaemonGroup.Stp.Sent
import DaemonGroup.Stp.Settling
import DaemonGroup.Stp.Telling
import DaemonGroup.Stp.Topology
import DaemonGroup.Stp.Transitions
import DaemonGroup.Stp.Transmit
import DaemonGroup.Stp.Vector
import DaemonGroup.Stp.Vlans
import DaemonGroup.Wcpss.Discovery
import DaemonGroup.Wcpss.Elements
import DaemonGroup.Wcpss.Fragments
import DaemonGroup.Wcpss.Protocol
import DaemonGroup.Wcpss.Reassembly
import DaemonGroup.Wcpss.TimerQueue
import DaemonGroup.Wcpss.TimerRuns
import DaemonGroup.Wcpss.Timerlib
