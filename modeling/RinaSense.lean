import RinaSense.Ipcp.DtpDelivery
import RinaSense.Ipcp.EfcpImapMap
import RinaSense.Ipcp.ConnectionChange
import RinaSense.Ipcp.FlowIsolation
import RinaSense.Ipcp.PeerCepId
import RinaSense.Ipcp.Loopback
import RinaSense.Ipcp.ReceiveConservation
import RinaSense.Ipcp.RmtDispatchRuns
import RinaSense.Ipcp.RmtSendRuns
import RinaSense.RinaApi.FlowAlloc
import RinaSense.RinaApi.FlowRead
import RinaSense.RinaApi.SizeLimits
import RinaSense.Rib.FlowRoundTrip
import RinaSense.Rib.EnrollmentRoundTrip
import RinaSense.Rib.ManagementSafety
import RinaSense.Rib.RequestRuns
import RinaSense.Rib.AppConnections
import RinaSense.Rib.NeighborAddresses
import RinaSense.Rib.BoundedCopies
import RinaSense.Common.RsLinkedList
import RinaSense.Common.NumMgr
import RinaSense.Common.HashTabIterator
import RinaSense.Shim.EthernetRoundTrip
import RinaSense.Shim.Ieee802154RoundTrip
import RinaSense.Shim.Ieee802154Parsing
import RinaSense.Shim.Ieee802154FrameSize
import RinaSense.Shim.Arp826Map
import RinaSense.Shim.ReplyAllocation
import RinaSense.Buffer.BufferRuns
import RinaSense.Rib.FlowRequestFailures
import RinaSense.Rib.ObjectTable
import RinaSense.Common.NumMgrTermination
import RinaSense.Common.RsrcDoubleFree
import RinaSense.Common.RsrcAtomicCreation
import RinaSense.Buffer.BufferResize
import RinaSense.Rib.InvokeIds
import RinaSense.Common.RinaTimer
import RinaSense.Common.NameCopies
import RinaSense.Shim.ArpAnswers
import RinaSense.Shim.EthernetParsing
import RinaSense.Common.BitArrayRuns
import RinaSense.Ipcp.RmtAddresses
import RinaSense.Shim.TapOutput
import RinaSense.Shim.Ieee802154HandOver
import RinaSense.Rib.FlowWindow
import RinaSense.RinaApi.ReadTimeouts
import RinaSense.Shim.IngressBuffers
import RinaSense.Shim.FlowAllocation
import RinaSense.Shim.Registration
import RinaSense.Nanopb.Accepted
import RinaSense.Rib.PbRoundTrip
import RinaSense.Ipcp.TransferRuns
