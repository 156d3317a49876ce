import FabricArp.Collection.SortedMap
import FabricArp.Failure
import FabricArp.Bytes
import FabricArp.Text.Decimal
import FabricArp.Text.Fields
import FabricArp.Address.Mac
import FabricArp.Address.Vlan
import FabricArp.Address.Subnet
import FabricArp.Ethernet.Frame
import FabricArp.Arp.Reply
import FabricArp.Arp.Station
import FabricArp.Network.Inventory
import FabricArp.Network.Event
import FabricArp.Partition.Table
import FabricArp.Proxy.Feed
import FabricArp.Proofs.Partition.Snapshot
import FabricArp.Proofs.Partition.Ledger
import FabricArp.Proofs.Proxy.Handling
import FabricArp.Proofs.Proxy.Egress
import FabricArp.Proofs.Proxy.LiveLinks
import FabricArp.Proofs.Ethernet.Fields
import FabricArp.Proofs.Arp.Answer
import FabricArp.Proofs.Arp.Reading
import FabricArp.Proofs.Arp.Writing
import FabricArp.Proofs.Proxy.Ruling
import FabricArp.Proofs.Partition.LastEvent
import FabricArp.Proofs.Partition.Reported
import FabricArp.Proofs.Ethernet.Editing
import FabricArp.Proofs.Proxy.Failing
import FabricArp.Proofs.Proxy.InRange
import FabricArp.Proofs.Ethernet.Rereading
import FabricArp.Proofs.Arp.Exchange
import FabricArp.Proofs.Proxy.Grounds
import FabricArp.Proofs.Proxy.Isolation
import FabricArp.Proofs.Arp.Padding
import FabricArp.Proofs.Proxy.Recopying
import FabricArp.Proofs.Proxy.Padding
import FabricArp.Proofs.Partition.Classification
import FabricArp.Proofs.Proxy.Flooding
import FabricArp.Proofs.Proxy.Feeding
import FabricArp.Proofs.Proxy.Delivery
import FabricArp.Proofs.Ethernet.Independence
import FabricArp.Proofs.Ethernet.RoundTrip
import FabricArp.Proofs.Arp.Contents
import FabricArp.Proofs.Arp.Assigning
import FabricArp.Proofs.Arp.Filling
import FabricArp.Proofs.Arp.Encoding
import FabricArp.Proofs.Network.Lookup
import FabricArp.Proofs.Network.Listing
import FabricArp.Proofs.Proxy.Answering
import FabricArp.Proofs.Proxy.Lengths
import FabricArp.Proofs.Partition.Observers
import FabricArp.Proofs.Proxy.Handover
import FabricArp.Proofs.Text.Spelling
import FabricArp.Proofs.Address.Dotted
import FabricArp.Proofs.Address.Slashed
import FabricArp.Proofs.Address.Blocks
import FabricArp.Proofs.Address.Order
import FabricArp.Proofs.Proxy.Accounting
