import BootServer.Config.Storage
import BootServer.Dhcp.Echo
import BootServer.Dhcp.Exchange
import BootServer.Event.Journal
import BootServer.Main
import BootServer.Operator.Program
import BootServer.Proofs.Dhcp.Announcements
import BootServer.Proofs.Dhcp.Reservation
import BootServer.Proofs.Dhcp.ServedSubnet
import BootServer.Proofs.Tftp.LateAcks
import BootServer.Proofs.Tftp.LockStep
import BootServer.Proofs.Tftp.ServedFiles
import BootServer.Tftp.Exchange
import BootServer.Proofs.Dhcp.Retransmission
import BootServer.Proofs.Tftp.LossyNetwork
import BootServer.Proofs.Tftp.Isolation
import BootServer.Proofs.BootFileSize
import BootServer.Proofs.Dhcp.Reencoding
import BootServer.Proofs.Tftp.MarkerChains
import BootServer.Proofs.Tftp.Reencoding
import BootServer.Proofs.Config.Restart
import BootServer.Proofs.Dhcp.Provenance
import BootServer.Proofs.Dhcp.Answers
import BootServer.Proofs.Dhcp.Allocation
import BootServer.Proofs.Dhcp.ItemGrammar
import BootServer.Proofs.Dhcp.LeaseSet
import BootServer.Proofs.Tftp.HopLimit
import BootServer.Proofs.Tftp.Replies
import BootServer.Proofs.DatagramSize
import BootServer.Proofs.Tftp.PacketGrammar
import BootServer.Proofs.Tftp.Reactions
import BootServer.Proofs.Tftp.SessionLifetime
import BootServer.Proofs.Tftp.EventStream
import BootServer.Proofs.Tftp.Negotiation
import BootServer.Proofs.Config.Assignments
import BootServer.Proofs.Storage.Replacement
import BootServer.Proofs.Dhcp.GrantedItems
import BootServer.Proofs.Dhcp.Window
import BootServer.Proofs.Tftp.CanonicalPaths
import BootServer.Proofs.Tftp.WireNumbers
import BootServer.Proofs.Event.JsonForm
import BootServer.Proofs.Json.Members
import BootServer.Proofs.Dhcp.Checksums
import BootServer.Proofs.Dhcp.ClientKeys
