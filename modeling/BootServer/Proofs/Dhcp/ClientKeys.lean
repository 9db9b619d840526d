import BootServer.Proofs.Dhcp.Reservation
import BootServer.Proofs.Text.HexOctets
import Mathlib.Data.List.Forall2

/-!
# Keys of clients

The key of a client's lease is its hardware address, as long as the packet says, in pairs of
hexadecimal digits between colons. The octets can be read back from it. So clients with different
hardware addresses have different leases, and what stands in the field behind the address makes no
difference to anything but its own echo.
-/

namespace BootServer.Dhcp

namespace Packet

variable {packet first second : Packet}

/-- How many octets of the field for it the hardware address has. -/
def addressLength (packet : Packet) : Nat := min packet.hardwareLength.toNat 16

theorem hexOctets_clientKey (packet : Packet) :
    Text.hexOctets packet.clientKey = packet.hardwareOctets :=
  Text.hexOctets_intercalate packet.hardwareOctets

theorem clientKey_eq_iff :
    first.clientKey = second.clientKey ↔ first.hardwareOctets = second.hardwareOctets := by
  constructor
  · intro hkey
    rw [← hexOctets_clientKey first, hkey, hexOctets_clientKey]
  · intro hoctets
    rw [clientKey, hoctets, clientKey]

theorem length_hardwareOctets (packet : Packet) :
    packet.hardwareOctets.length = packet.addressLength := by
  rw [hardwareOctets, List.length_take, packet.hardware.length_eq, addressLength, Nat.min_assoc,
    Nat.min_self]

theorem octetAt_hardwareOctets {index : Nat} (h : index < packet.addressLength) :
    Bytes.octetAt packet.hardwareOctets index = Bytes.octetAt packet.hardware.octets index := by
  rw [addressLength] at h
  rw [Bytes.octetAt, Bytes.octetAt, List.getD_eq_getElem?_getD, List.getD_eq_getElem?_getD,
    hardwareOctets, List.getElem?_take_of_lt h]

theorem hardwareOctets_eq_iff :
    first.hardwareOctets = second.hardwareOctets ↔
      first.addressLength = second.addressLength ∧
        ∀ index < first.addressLength, Bytes.octetAt first.hardware.octets index =
          Bytes.octetAt second.hardware.octets index := by
  constructor
  · intro h
    have hlength : first.addressLength = second.addressLength := by
      rw [← length_hardwareOctets, h, length_hardwareOctets]
    refine ⟨hlength, fun index hindex => ?_⟩
    rw [← octetAt_hardwareOctets hindex, h, octetAt_hardwareOctets (hlength ▸ hindex)]
  · rintro ⟨hlength, hoctets⟩
    apply List.ext_getElem
    · rw [length_hardwareOctets, length_hardwareOctets, hlength]
    · intro index hfirst hsecond
      rw [← Bytes.octetAt_of_lt hfirst, ← Bytes.octetAt_of_lt hsecond]
      rw [length_hardwareOctets] at hfirst hsecond
      rw [octetAt_hardwareOctets hfirst, hoctets index hfirst, octetAt_hardwareOctets hsecond]

/-- The packet with other octets in the field for the hardware address. -/
def withHardware (packet : Packet) (field : FixedField 16) : Packet :=
  { packet with hardware := field }

end Packet

/-! ## What stands behind the address

Nothing that handles a packet looks into the field, except for the key and the client's identifier.
So each function has one equation, from those of the functions it calls. -/

section

variable {config : Config} {disk : Disk} {probe : Probe} {leases : Leases} {packet : Packet}
  {field : FixedField 16} (h : (packet.withHardware field).hardwareOctets = packet.hardwareOctets)
include h

theorem clientKey_withHardware : (packet.withHardware field).clientKey = packet.clientKey :=
  Packet.clientKey_eq_iff.mpr h

theorem clientText_withHardware : clientText (packet.withHardware field) = clientText packet := by
  have hname : (packet.withHardware field).hostName? = packet.hostName? := rfl
  unfold clientText
  rw [clientKey_withHardware h, hname]

theorem offSubnet_withHardware (ip : IPv4) :
    offSubnet config (packet.withHardware field) ip = offSubnet config packet ip := by
  rw [offSubnet, offSubnet, clientKey_withHardware h, clientText_withHardware h]

theorem unresolved_withHardware (questions : List Question) :
    unresolved (packet.withHardware field) questions = unresolved packet questions := by
  rw [unresolved, unresolved, clientText_withHardware h]

theorem offerAny_withHardware (asked : List Question) :
    offerAny config leases probe (packet.withHardware field) asked =
      offerAny config leases probe packet asked := by
  rw [offerAny, offerAny, clientKey_withHardware h, clientText_withHardware h]

theorem onDiscover_withHardware :
    onDiscover config leases probe (packet.withHardware field) =
      onDiscover config leases probe packet := by
  have hrequested : (packet.withHardware field).requestedAddress? = packet.requestedAddress? := rfl
  rw [onDiscover, onDiscover, hrequested]
  simp only [clientKey_withHardware h, clientText_withHardware h, offSubnet_withHardware h,
    offerAny_withHardware h]

theorem onClaim_withHardware :
    onClaim config leases probe (packet.withHardware field) =
      onClaim config leases probe packet := by
  have hclaimed : claimedAddress? (packet.withHardware field) = claimedAddress? packet := rfl
  rw [onClaim, onClaim, hclaimed]
  simp only [clientKey_withHardware h, clientText_withHardware h, offSubnet_withHardware h,
    unresolved_withHardware h]

theorem verdict_withHardware :
    verdict config leases probe (packet.withHardware field) =
      verdict config leases probe packet := by
  have hop : (packet.withHardware field).op = packet.op := rfl
  have hbroadcast : (packet.withHardware field).isBroadcast = packet.isBroadcast := rfl
  have hcode : (packet.withHardware field).messageCode? = packet.messageCode? := rfl
  have hserver : intendedServer (packet.withHardware field) = intendedServer packet := rfl
  rw [verdict, verdict, hop, hbroadcast, hcode]
  simp only [onRequest, hserver, clientText_withHardware h, onDiscover_withHardware h,
    onClaim_withHardware h]

theorem clientIdentifier_withHardware :
    (packet.withHardware field).clientIdentifier = packet.clientIdentifier := by
  rw [Packet.clientIdentifier, Packet.clientIdentifier, h]
  rfl

theorem grant_withHardware (kind : MessageType) (ip clientAddress : IPv4) :
    grant config disk (packet.withHardware field) kind ip clientAddress =
      (grant config disk packet kind ip clientAddress).withHardware field := by
  rw [grant, grant, clientIdentifier_withHardware h]
  dsimp only
  split
  · rfl
  · cases bootServer? config <;> rfl

theorem refusal_withHardware :
    refusal config (packet.withHardware field) = (refusal config packet).withHardware field := by
  rw [refusal, refusal, clientIdentifier_withHardware h]
  rfl

/-- What stands behind the hardware address is echoed, and changes nothing else. -/
theorem handle_withHardware :
    handle config disk probe leases (packet.withHardware field) =
      { handle config disk probe leases packet with
        reply := (handle config disk probe leases packet).reply.map (·.withHardware field) } := by
  rw [handle, handle, verdict_withHardware h, settle, settle, clientKey_withHardware h]
  cases (verdict config leases probe packet).verdict with
  | silence | ignore _ | exhausted => rfl
  | refuse reason =>
      dsimp only
      rw [refusal_withHardware h]
      rfl
  | offer ip =>
      dsimp only
      rw [settleGrant, settleGrant, clientKey_withHardware h, clientText_withHardware h,
        grant_withHardware h]
      rfl
  | acknowledge ip =>
      have hclient : (packet.withHardware field).clientAddress = packet.clientAddress := rfl
      dsimp only
      rw [settleGrant, settleGrant, clientKey_withHardware h, clientText_withHardware h, hclient,
        grant_withHardware h]
      rfl

end

/-- Two visits differ in what stands behind the hardware address only. -/
def Visit.SameAddress (visit other : Visit) : Prop :=
  ∃ field, (visit.packet.withHardware field).hardwareOctets = visit.packet.hardwareOctets ∧
    other = { visit with packet := visit.packet.withHardware field }

theorem leasesAfter_sameAddress {visits others : List Visit}
    (h : List.Forall₂ Visit.SameAddress visits others) (config : Config) (leases : Leases) :
    leasesAfter config leases others = leasesAfter config leases visits := by
  induction h generalizing leases with
  | nil => rfl
  | cons hhead htail ih =>
      obtain ⟨field, hfield, rfl⟩ := hhead
      rw [leasesAfter, leasesAfter, ih, Visit.outcome, handle_withHardware hfield]
      rfl

/-- Two packets have the same key exactly when they have the same hardware address: the same length,
16 at most, and the same octets up to there. So, after any visits, clients with different hardware
addresses never hold the same address; and other octets behind the hardware addresses, whatever they
are and in whichever packets, would have led to the same leases. -/
theorem clients_keyed_by_hardware (first second : Packet) :
    (first.clientKey = second.clientKey ↔ first.hardwareOctets = second.hardwareOctets) ∧
      (first.hardwareOctets = second.hardwareOctets ↔
        first.addressLength = second.addressLength ∧
          ∀ index < first.addressLength, Bytes.octetAt first.hardware.octets index =
            Bytes.octetAt second.hardware.octets index) ∧
      (∀ config visits ip,
        (leasesAfter config .empty visits).addressOf first.clientKey = some ip →
          (leasesAfter config .empty visits).addressOf second.clientKey = some ip →
            first.hardwareOctets = second.hardwareOctets) ∧
      ∀ config visits others, List.Forall₂ Visit.SameAddress visits others →
        leasesAfter config .empty others = leasesAfter config .empty visits := by
  refine ⟨Packet.clientKey_eq_iff, Packet.hardwareOctets_eq_iff, ?_, ?_⟩
  · intro config visits ip hfirst hsecond
    have hsound := sound_leasesAfter (Leases.sound_empty config) visits
    exact Packet.clientKey_eq_iff.mp (hsound.consistent.client_unique hfirst hsecond)
  · intro config visits others h
    exact leasesAfter_sameAddress h config .empty

namespace Small

/-- The client that looks for an address, with octets left behind its hardware address. -/
def untidy : Visit :=
  { Visit.looking address with
    packet := (Visit.looking address).packet.withHardware
      (.ofBytes 16 [2, 0, 0, 0, 0, 1, 170, 187]) }

theorem looking_sameAddress_untidy : (Visit.looking address).SameAddress untidy :=
  ⟨_, by decide, rfl⟩

end Small

/-- The untidy client gets the lease of the tidy one, under the same key, and the rival has another
key. -/
theorem small_clients_keyed_by_hardware :
    let tidy := leasesAfter Small.config .empty [Visit.looking Small.address]
    let untidy := leasesAfter Small.config .empty [Small.untidy]
    Small.untidy.client = (Visit.looking Small.address).client ∧
      untidy = tidy ∧ tidy.addressOf Small.untidy.client = some Small.address ∧
      Small.rival.client ≠ Small.untidy.client ∧
      tidy.addressOf Small.rival.client ≠ some Small.address := by
  intro tidy untidy
  obtain ⟨hkey, -, hshare, hsplit⟩ :=
    clients_keyed_by_hardware Small.rival.packet Small.untidy.packet
  have hoctets : Small.rival.packet.hardwareOctets ≠ Small.untidy.packet.hardwareOctets := by
    decide
  have haddress : tidy.addressOf Small.untidy.client = some Small.address := by decide +kernel
  refine ⟨by decide +kernel, ?_, haddress, mt hkey.mp hoctets, ?_⟩
  · exact hsplit Small.config [Visit.looking Small.address] [Small.untidy]
      (.cons Small.looking_sameAddress_untidy .nil)
  · intro hrival
    exact hoctets (hshare Small.config [Visit.looking Small.address] Small.address hrival haddress)

end BootServer.Dhcp
