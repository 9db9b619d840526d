import BootServer.Proofs.Dhcp.LeaseSafety
import BootServer.Proofs.Dhcp.Subnet

/-!
# What is served on the subnet

An address that a client names is checked against the subnet, an address of the window is not. So a
server keeps to its subnet exactly when its window does, and otherwise it refuses what it has just
offered.
-/

namespace BootServer.Dhcp

variable {config : Config} {leases : Leases} {probe : Probe} {packet : Packet} {ip : IPv4}

/-- After any visits, every address that is granted or leased is on the subnet. -/
def ServesSubnetOnly (config : Config) : Prop :=
  ∀ visits,
    let leases := leasesAfter config .empty visits
    (∀ (visit : Visit) reply ip, (visit.outcome config leases).reply = some reply →
      reply.granted? = some ip → (Pool.ofConfig config).isValid ip = true) ∧
      ∀ client ip, leases.addressOf client = some ip → (Pool.ofConfig config).isValid ip = true

structure Visit.Requests (visit : Visit) (ip : IPv4) : Prop where
  kind : visit.packet.messageCode? = some MessageType.request.code
  claimed : claimedAddress? visit.packet = some ip

/-- A client is told, or would be told, that the address is off the subnet. -/
def Outcome.RefusesOffSubnet (outcome : Outcome) (client : String) : Prop :=
  .refused client Reason.offSubnet.text ∈ outcome.events ∨
    .ignored client Reason.offSubnet.text ∈ outcome.events

/-- After any visits, a client that requests the address it was just offered is not refused as off
the subnet. -/
def HonoursOffers (config : Config) : Prop :=
  ∀ visits,
    let leases := leasesAfter config .empty visits
    ∀ (visit next : Visit) offer ip, (visit.outcome config leases).reply = some offer →
      offer.messageCode? = some MessageType.offer.code → offer.granted? = some ip →
      next.client = visit.client → next.Requests ip →
      ¬ (next.outcome config (visit.outcome config leases).leases).RefusesOffSubnet next.client

/-! ## A window on the subnet -/

def Leases.OnSubnet (leases : Leases) (config : Config) : Prop :=
  ∀ client ip, leases.addressOf client = some ip → (Pool.ofConfig config).isValid ip = true

theorem Pool.Grantable.isValid (hwindow : config.WindowOnSubnet) (hsound : leases.Sound config)
    (honSubnet : leases.OnSubnet config) {client : String}
    (h : (Pool.ofConfig config).Grantable leases client ip) :
    (Pool.ofConfig config).isValid ip = true := by
  have hfree := hsound.free_of_grantable h
  rcases h with hown | ⟨hvalid | hcontains, -⟩
  · exact honSubnet client ip hown
  · exact hvalid
  · exact hwindow ip hcontains (hsound.ne_server_of_free hfree)

theorem Visit.onSubnet (hwindow : config.WindowOnSubnet) (hsound : leases.Sound config)
    (honSubnet : leases.OnSubnet config) (visit : Visit) :
    (visit.outcome config leases).leases.OnSubnet config := by
  rcases outcome_cases config leases visit with hnothing | ⟨ip, hgrantable, hgrants⟩
  · rw [hnothing.leases_eq]
    exact honSubnet
  · rw [hgrants.leases_eq]
    intro client other hother
    rw [Leases.addressOf_assign hsound.consistent] at hother
    split at hother
    · obtain rfl := Option.some.inj hother
      exact hgrantable.isValid hwindow hsound honSubnet
    split at hother
    · exact nomatch hother
    · exact honSubnet client other hother

theorem onSubnet_leasesAfter (hwindow : config.WindowOnSubnet) (visits : List Visit) :
    (leasesAfter config .empty visits).Sound config ∧
      (leasesAfter config .empty visits).OnSubnet config := by
  apply leasesAfter_induction (fun leases => leases.Sound config ∧ leases.OnSubnet config)
  · intro leases visit h
    exact ⟨Visit.sound h.1 visit, Visit.onSubnet hwindow h.1 h.2 visit⟩
  · exact ⟨Leases.sound_empty config, fun _ _ h => nomatch h⟩

theorem servesSubnetOnly_of_window (hwindow : config.WindowOnSubnet) : ServesSubnetOnly config := by
  intro visits leases
  obtain ⟨hsound, honSubnet⟩ := onSubnet_leasesAfter hwindow visits
  refine ⟨?_, honSubnet⟩
  intro visit reply ip hreply hgranted
  rcases Visit.outcome_cases config leases visit with hnothing | ⟨other, hgrantable, hgrants⟩
  · rw [hnothing.reply_granted reply hreply] at hgranted
    exact nomatch hgranted
  · obtain ⟨granting, hgranting, hother⟩ := hgrants.reply_granted
    obtain rfl := Option.some.inj (hgranting.symm.trans hreply)
    obtain rfl := Option.some.inj (hother.symm.trans hgranted)
    exact hgrantable.isValid hwindow hsound honSubnet

/-! ## Refusals -/

theorem Reason.text_eq_offSubnet {reason : Reason} (h : reason.text = Reason.offSubnet.text) :
    reason = .offSubnet := by
  cases reason with
  | otherServer ip =>
      have hwords (rest : String) :
          "addressed to server " ++ rest ≠ "requested address off subnet" := by
        intro h
        have hfirst := congrArg (fun text => text.toList.take 1) h
        simp at hfirst
      exact absurd h (hwords ip.toText)
  | offSubnet => rfl
  | unresolved => exact absurd h (by decide)

/-- The verdict that an address is off the subnet, told to the client or not. -/
def Verdict.OffSubnet (verdict : Verdict) : Prop :=
  verdict = .refuse .offSubnet ∨ verdict = .ignore .offSubnet

theorem Visit.refusesOffSubnet_iff (visit : Visit) :
    (visit.outcome config leases).RefusesOffSubnet visit.client ↔
      (verdict config leases visit.probe visit.packet).verdict.OffSubnet := by
  have htext (reason : Reason) :
      Reason.offSubnet.text = reason.text ↔ reason = .offSubnet :=
    ⟨fun h => Reason.text_eq_offSubnet h.symm, fun h => h ▸ rfl⟩
  unfold Outcome.RefusesOffSubnet Verdict.OffSubnet outcome handle settle
  cases (verdict config leases visit.probe visit.packet).verdict with
  | silence | exhausted => simp
  | ignore reason | refuse reason => simp [client, htext]
  | offer ip | acknowledge ip =>
      simp only [settleGrant, assignmentEvents]
      cases leases.outcome visit.packet.clientKey ip <;> simp

theorem onClaim_offSubnet_iff (hclaimed : claimedAddress? packet = some ip) :
    (onClaim config leases probe packet).verdict.OffSubnet ↔
      (Pool.ofConfig config).isValid ip = false := by
  cases hvalid : (Pool.ofConfig config).isValid ip with
  | false =>
      simp only [onClaim, hclaimed, hvalid, Bool.not_false, if_true, offSubnet, iff_true]
      split
      · exact .inl rfl
      · exact .inr rfl
  | true =>
      simp only [onClaim, hclaimed, hvalid, Bool.not_true, Bool.false_eq_true, if_false]
      split
      · simp [Verdict.OffSubnet]
      · simp [Verdict.OffSubnet, Decision.after, unresolved]

/-- Only what a request claims can be off the subnet. -/
theorem onClaim_offSubnet_of_request
    (hkind : packet.messageCode? = some MessageType.request.code)
    (h : (verdict config leases probe packet).verdict.OffSubnet) :
    (onClaim config leases probe packet).verdict.OffSubnet := by
  unfold verdict at h
  split at h
  · simp [Verdict.OffSubnet, Decision.plain] at h
  split at h
  · simp [Verdict.OffSubnet, Decision.plain] at h
  rw [hkind] at h
  simp only [MessageType.ofCode?_code, onRequest] at h
  split at h
  · simp [Verdict.OffSubnet, Decision.plain] at h
  · exact h

/-! ## A window off the subnet -/

/-- A packet of a client that has no address yet. -/
def Packet.ofNewcomer (items : List Item) : Packet where
  op := requestOp
  hardwareType := 1
  hardwareLength := 6
  hops := 0
  transaction := 1
  seconds := 0
  flags := broadcastFlag
  clientAddress := .unspecified
  yourAddress := .unspecified
  serverAddress := .unspecified
  relayAddress := .unspecified
  hardware := .ofBytes 16 [2, 0, 0, 0, 0, 1]
  serverName := .zero 64
  bootFile := .zero 128
  items := items

theorem Packet.isBroadcast_ofNewcomer (items : List Item) : (ofNewcomer items).isBroadcast = true :=
  show (broadcastFlag &&& broadcastFlag != 0) = true by decide

/-- A client looks around while only one address is silent. -/
def Visit.looking (ip : IPv4) : Visit where
  disk := .empty
  probe := fun _ other => other != ip
  packet := .ofNewcomer [.messageType MessageType.discover.code]

/-- The same client requests an address. -/
def Visit.claiming (ip : IPv4) : Visit where
  disk := .empty
  probe := .nobody
  packet := .ofNewcomer
    [.messageType MessageType.request.code, .ofAddress Code.requestedAddress ip]

theorem search_looking (hcontains : (Pool.ofConfig config).contains ip = true)
    (hserver : ip ≠ config.address) (client : String) :
    ((Pool.ofConfig config).search .empty (Visit.looking ip).probe client
      (Pool.ofConfig config).size (Pool.ofConfig config).start 0).1 = some ip := by
  obtain ⟨hstart, hfinish⟩ := Pool.contains_iff.mp hcontains
  have hmax := (Pool.ofConfig config).finish_le
  rw [Pool.wordMax] at hmax
  apply Pool.search_eq_some hstart
  · rw [Pool.size]
    omega
  · intro asked
    have hsilent : (Visit.looking ip).probe asked ip = false := by simp [Visit.looking]
    exact Pool.isAvailable_iff.mpr (.inr ⟨⟨Table.get?_empty ip, hserver⟩, hsilent⟩)
  · intro n asked hn
    rw [Bool.eq_false_iff, Ne, Pool.isAvailable_iff]
    rintro (hheld | ⟨-, hsilent⟩)
    · exact absurd (hheld.symm.trans (Table.get?_empty _)) (Option.some_ne_none client)
    · have hip : IPv4.ofNat n = ip := by simpa [Visit.looking] using hsilent
      have hnumber := IPv4.toNat_ofNat (n := n) (by omega)
      rw [hip] at hnumber
      omega

theorem verdict_of_discover (hop : packet.op = Packet.requestOp)
    (hbroadcast : packet.isBroadcast = true)
    (hkind : packet.messageCode? = some MessageType.discover.code) :
    (verdict config leases probe packet).verdict =
      (onDiscover config leases probe packet).verdict := by
  simp only [verdict, hop, hbroadcast, hkind, MessageType.ofCode?_code, Bool.not_true,
    Bool.and_false, Bool.false_eq_true, if_false, ne_eq, not_true_eq_false, Decision.after]

/-- Every address of the window, except the server's own, is offered to a client that names none,
if nobody is silent but at this address. -/
theorem verdict_of_silent (hcontains : (Pool.ofConfig config).contains ip = true)
    (hserver : ip ≠ config.address) (hop : packet.op = Packet.requestOp)
    (hbroadcast : packet.isBroadcast = true)
    (hkind : packet.messageCode? = some MessageType.discover.code)
    (hnamed : packet.requestedAddress? = none) :
    (verdict config .empty (Visit.looking ip).probe packet).verdict = .offer ip := by
  have hallocate : ((Pool.ofConfig config).allocate .empty (Visit.looking ip).probe 0
      packet.clientKey).1 = some ip :=
    search_looking hcontains hserver packet.clientKey
  rw [verdict_of_discover hop hbroadcast hkind]
  simp only [onDiscover, hnamed, Option.bind_none, offerAny, List.length_nil, hallocate]

theorem verdict_looking (hcontains : (Pool.ofConfig config).contains ip = true)
    (hserver : ip ≠ config.address) :
    (verdict config .empty (Visit.looking ip).probe (Visit.looking ip).packet).verdict =
      .offer ip :=
  verdict_of_silent hcontains hserver rfl (Packet.isBroadcast_ofNewcomer _) rfl rfl

theorem Packet.requestedAddress?_of_item
    (h : packet.item? Code.requestedAddress = some (.ofAddress Code.requestedAddress ip)) :
    packet.requestedAddress? = some ip := by
  simp [requestedAddress?, h]

theorem claimedAddress?_claiming (hspecified : ip ≠ .unspecified) :
    claimedAddress? (Visit.claiming ip).packet = some ip := by
  have hrequested : (Visit.claiming ip).packet.requestedAddress? = some ip :=
    Packet.requestedAddress?_of_item rfl
  have hown : (Visit.claiming ip).packet.clientAddress = .unspecified := rfl
  simp [claimedAddress?, hrequested, hown, IPv4.specified?, hspecified]

theorem verdict_claiming (hspecified : ip ≠ .unspecified)
    (hvalid : (Pool.ofConfig config).isValid ip = false) :
    (verdict config leases (Visit.claiming ip).probe
      (Visit.claiming ip).packet).verdict.OffSubnet := by
  have hrequests : (Visit.claiming ip).packet.RequestsFrom config :=
    ⟨rfl, rfl, .inr (Packet.isBroadcast_ofNewcomer _), .inr ⟨rfl, .inl rfl⟩⟩
  rw [(hrequests.verdict_eq _ _).1]
  exact (onClaim_offSubnet_iff (claimedAddress?_claiming hspecified)).mpr hvalid

theorem Pool.isValid_unspecified {pool : Pool} (h : pool.contains .unspecified = true) :
    pool.isValid .unspecified = true := by
  obtain ⟨hstart, -⟩ := contains_iff.mp h
  have hstart : pool.start ≤ 0 := hstart
  have hbase : pool.base.toNat = 0 := by
    rw [start, wordMax] at hstart
    omega
  have hnetwork : pool.base = .unspecified := by
    rw [← IPv4.ofNat_toNat pool.base, hbase]
    rfl
  simp [isValid, network, hnetwork]

/-- An address of the window that is off the subnet, and not the server's own, is offered to a
client that looks around while everybody else answers, and then refused to the same client. -/
theorem escapes_of_window (hcontains : (Pool.ofConfig config).contains ip = true)
    (hserver : ip ≠ config.address) (hvalid : (Pool.ofConfig config).isValid ip = false) :
    ¬ ServesSubnetOnly config ∧ ¬ HonoursOffers config := by
  have hspecified : ip ≠ .unspecified := by
    rintro rfl
    rw [Pool.isValid_unspecified hcontains] at hvalid
    exact absurd hvalid (by decide)
  obtain ⟨offer, hreply, hkind, hgranted⟩ :=
    Visit.reply_of_offer (verdict_looking hcontains hserver)
  constructor
  · intro hserves
    have hserved := (hserves []).1 (Visit.looking ip) offer ip hreply hgranted
    rw [hvalid] at hserved
    exact absurd hserved (by decide)
  · intro hhonours
    have hrequests : (Visit.claiming ip).Requests ip :=
      ⟨rfl, claimedAddress?_claiming hspecified⟩
    apply hhonours [] (Visit.looking ip) (Visit.claiming ip) offer ip hreply hkind hgranted rfl
      hrequests
    exact (Visit.refusesOffSubnet_iff _).mpr (verdict_claiming hspecified hvalid)

theorem honoursOffers_of_serves (hserves : ServesSubnetOnly config) : HonoursOffers config := by
  intro visits leases visit next offer ip hreply _ hgranted _ hrequests hrefuses
  have hvalid := (hserves visits).1 visit offer ip hreply hgranted
  have hverdict := (Visit.refusesOffSubnet_iff next).mp hrefuses
  have hclaim := onClaim_offSubnet_of_request hrequests.kind hverdict
  rw [(onClaim_offSubnet_iff hrequests.claimed).mp hclaim] at hvalid
  exact absurd hvalid (by decide)

theorem windowOnSubnet_of_kept (h : ServesSubnetOnly config ∨ HonoursOffers config) :
    config.WindowOnSubnet := by
  intro ip hcontains hserver
  rcases Bool.eq_false_or_eq_true ((Pool.ofConfig config).isValid ip) with hvalid | hvalid
  · exact hvalid
  · obtain ⟨hserves, hhonours⟩ := escapes_of_window hcontains hserver hvalid
    rcases h with h | h
    · exact absurd h hserves
    · exact absurd h hhonours

/-- A server keeps to its subnet, and never refuses as off the subnet what it has just offered,
exactly when every address of its window, except its own, is on the subnet. -/
theorem served_on_subnet_iff (config : Config) :
    (ServesSubnetOnly config ↔ config.WindowOnSubnet) ∧
      (HonoursOffers config ↔ config.WindowOnSubnet) := by
  refine ⟨⟨fun h => windowOnSubnet_of_kept (.inl h), servesSubnetOnly_of_window⟩,
    ⟨fun h => windowOnSubnet_of_kept (.inr h), ?_⟩⟩
  intro hwindow
  exact honoursOffers_of_serves (servesSubnetOnly_of_window hwindow)

/-- A configuration whose subnet has sixteen addresses while everything about the pool is blank. -/
def narrowConfig : Config :=
  { address := .ofOctets 10 0 0 1, dhcp := { subnetMask := .ofOctets 255 255 255 240 } }

/-- The usual window starts behind the end of a small subnet. A server with such a configuration
starts, enforces its subnet, and offers 10.0.0.20 off it. -/
theorem narrow_subnet_escapes :
    narrowConfig.completed.validate = .ok () ∧
      narrowConfig.completed.dhcp.enforceSubnet = true ∧
      ¬ ServesSubnetOnly narrowConfig.completed ∧ ¬ HonoursOffers narrowConfig.completed := by
  have hcontains :
      (Pool.ofConfig narrowConfig.completed).contains (.ofOctets 10 0 0 20) = true := by
    decide
  have hvalid : (Pool.ofConfig narrowConfig.completed).isValid (.ofOctets 10 0 0 20) = false := by
    decide
  exact ⟨rfl, rfl, escapes_of_window hcontains (by decide) hvalid⟩

end BootServer.Dhcp
