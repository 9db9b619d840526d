import BootServer.Proofs.Dhcp.ServedSubnet

/-!
# An offer is a reservation

An offered address is recorded as the client's at once, and nobody else can take it. So when the
client requests it from this server, however many other clients came in between, the address is
acknowledged without a question to the probe, even if the client already answers there.
-/

namespace BootServer.Dhcp

section

variable {config : Config} {leases : Leases} {client : String} {ip : IPv4}

/-- A packet names an address: as the client's own, or as the requested one of a client that has
none. -/
def Packet.Names (packet : Packet) (ip : IPv4) : Prop :=
  packet.clientAddress = ip ∨
    (packet.clientAddress = .unspecified ∧ packet.requestedAddress? = some ip)

theorem claimedAddress?_of_names {packet : Packet} (hspecified : ip ≠ .unspecified)
    (h : packet.Names ip) : claimedAddress? packet = some ip := by
  rcases h with hown | ⟨hnone, hrequested⟩
  · simp [claimedAddress?, hown, hspecified]
  · simp [claimedAddress?, hnone, hrequested, IPv4.specified?, hspecified]

/-- A client keeps its address while only others visit. -/
theorem addressOf_leasesAfter_of_others (h : leases.Sound config) (visits : List Visit)
    (hothers : ∀ visit ∈ visits, visit.client ≠ client) :
    (leasesAfter config leases visits).addressOf client = leases.addressOf client := by
  induction visits generalizing leases with
  | nil => rfl
  | cons visit rest ih =>
      have hfirst : visit.client ≠ client := hothers visit List.mem_cons_self
      have hrest : ∀ later ∈ rest, later.client ≠ client :=
        fun later hlater => hothers later (List.mem_cons_of_mem visit hlater)
      rw [leasesAfter, ih (Visit.sound h visit) hrest, Visit.addressOf_of_ne h visit hfirst.symm]

/-- Whatever a reply grants is the client's from then on. -/
theorem Visit.addressOf_of_granted (h : leases.Sound config) {visit : Visit} {reply : Packet}
    (hreply : (visit.outcome config leases).reply = some reply)
    (hgranted : reply.granted? = some ip) :
    (visit.outcome config leases).leases.addressOf visit.client = some ip := by
  rcases outcome_cases config leases visit with hnothing | ⟨other, -, hgrants⟩
  · rw [hnothing.reply_granted reply hreply] at hgranted
    exact nomatch hgranted
  · obtain ⟨granting, hgranting, hother⟩ := hgrants.reply_granted
    obtain rfl := Option.some.inj (hgranting.symm.trans hreply)
    obtain rfl := Option.some.inj (hother.symm.trans hgranted)
    rw [hgrants.leases_eq, Leases.addressOf_assign h.consistent, if_pos rfl]

/-- What a client is answered that requests from this server the address that it holds. -/
theorem Visit.outcome_of_held (h : leases.Sound config) {visit : Visit}
    (hrequests : visit.packet.RequestsFrom config)
    (hclaimed : claimedAddress? visit.packet = some ip)
    (hvalid : (Pool.ofConfig config).isValid ip = true)
    (haddress : leases.addressOf visit.client = some ip) :
    (∃ reply, (visit.outcome config leases).reply = some reply ∧
        reply.messageCode? = some MessageType.ack.code ∧ reply.yourAddress = ip) ∧
      (visit.outcome config leases).questions = [] ∧
      (visit.outcome config leases).leases = leases := by
  have hholder := (h.consistent.inverse visit.client ip).mp haddress
  have hclaim : onClaim config leases visit.probe visit.packet = _ :=
    onClaim_of_held hclaimed hvalid hholder
  obtain ⟨hverdict, hquestions⟩ := hrequests.verdict_eq leases visit.probe
  rw [hclaim] at hverdict hquestions
  unfold outcome handle settle
  rw [hverdict]
  exact ⟨⟨_, rfl, messageCode?_grant .., yourAddress_grant ..⟩, hquestions,
    Leases.assign_of_held haddress⟩

end

/-- When a client was offered an address of the subnet, and after any visits of others requests it
from this server, then the address is acknowledged, nobody is asked whether it is in use, and the
lease table stays as it is. -/
theorem offer_reserves_address (config : Config) (before between : List Visit)
    (discover request : Visit) (offer : Packet) (ip : IPv4)
    (hoffer : (discover.outcome config (leasesAfter config .empty before)).reply = some offer)
    (hkind : offer.messageCode? = some MessageType.offer.code)
    (hip : offer.yourAddress = ip) (hspecified : ip ≠ .unspecified)
    (hvalid : (Pool.ofConfig config).isValid ip = true)
    (hothers : ∀ visit ∈ between, visit.client ≠ discover.client)
    (hclient : request.client = discover.client)
    (hrequests : request.packet.RequestsFrom config) (hnames : request.packet.Names ip) :
    let leases := leasesAfter config .empty (before ++ discover :: between)
    let outcome := request.outcome config leases
    (∃ reply, outcome.reply = some reply ∧
        reply.messageCode? = some MessageType.ack.code ∧ reply.yourAddress = ip) ∧
      outcome.questions = [] ∧ outcome.leases = leases := by
  intro leases outcome
  have hbefore : (leasesAfter config .empty before).Sound config :=
    sound_leasesAfter (Leases.sound_empty config) before
  have hgranted : offer.granted? = some ip := by
    simp [Packet.granted?, hkind, hip]
  have hsound := Visit.sound hbefore discover
  have hleases : leases = leasesAfter config
      (discover.outcome config (leasesAfter config .empty before)).leases between :=
    leasesAfter_append config .empty before (discover :: between)
  have haddress : leases.addressOf request.client = some ip := by
    rw [hleases, hclient, addressOf_leasesAfter_of_others hsound between hothers]
    exact Visit.addressOf_of_granted hbefore hoffer hgranted
  have hreached : leases.Sound config := sound_leasesAfter (Leases.sound_empty config) _
  exact Visit.outcome_of_held hreached hrequests (claimedAddress?_of_names hspecified hnames) hvalid
    haddress

namespace Small

/-- A server with blank pool settings on a subnet of 256 addresses: it serves from 10.0.0.20 on. -/
def config : Config :=
  .completed { address := .ofOctets 10 0 0 1, dhcp := { subnetMask := .ofOctets 255 255 255 0 } }

def address : IPv4 := .ofOctets 10 0 0 20

/-- Another client requests the address. -/
def rival : Visit :=
  { Visit.claiming address with
    packet := { (Visit.claiming address).packet with hardware := .ofBytes 16 [2, 0, 0, 0, 0, 2] } }

/-- The client requests the address, at which it answers already. -/
def request : Visit := { Visit.claiming address with probe := .answering [address] }

theorem request_requestsFrom : request.packet.RequestsFrom config :=
  ⟨rfl, rfl, .inr (Packet.isBroadcast_ofNewcomer _), .inr ⟨rfl, .inl rfl⟩⟩

end Small

/-- A client is offered an address, another one requests the same address, and then the client gets
it. -/
theorem small_offer_reserves_address :
    let leases := leasesAfter Small.config .empty [Visit.looking Small.address, Small.rival]
    let outcome := Small.request.outcome Small.config leases
    (∃ reply, outcome.reply = some reply ∧
        reply.messageCode? = some MessageType.ack.code ∧ reply.yourAddress = Small.address) ∧
      outcome.questions = [] ∧ outcome.leases = leases := by
  have hcontains : (Pool.ofConfig Small.config).contains Small.address = true := by decide
  have hverdict := verdict_looking hcontains (by decide)
  obtain ⟨offer, hreply, hkind, hip⟩ := Visit.reply_of_offer hverdict
  have haddress : offer.yourAddress = Small.address := by
    simpa [Packet.granted?, hkind] using hip
  exact offer_reserves_address Small.config [] [Small.rival] (Visit.looking Small.address)
    Small.request offer Small.address hreply hkind haddress (by decide) (by decide) (by decide) rfl
    Small.request_requestsFrom (.inr ⟨rfl, rfl⟩)

end BootServer.Dhcp
