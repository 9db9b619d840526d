import BootServer.Dhcp.Verdict

/-!
# The addresses that a verdict grants

Whatever a client asks for and whatever the probe answers, the address that a client is granted is
the one it has, or else an address that nobody else holds and that is not the server's, named by
the client or found in the window of the pool.
-/

namespace BootServer.Dhcp

namespace Pool

variable {pool : Pool} {leases : Leases} {probe : Probe} {client : String} {asked : Nat}
  {ip : IPv4}

/-- The records let a client have an address. -/
def Free (pool : Pool) (leases : Leases) (client : String) (ip : IPv4) : Prop :=
  leases.holder ip = some client ∨ (leases.holder ip = none ∧ ip ≠ pool.server)

/-- A client may be granted an address: the one it has, or a free one that is on the subnet or in
the window. -/
def Grantable (pool : Pool) (leases : Leases) (client : String) (ip : IPv4) : Prop :=
  leases.addressOf client = some ip ∨
    ((pool.isValid ip = true ∨ pool.contains ip = true) ∧ pool.Free leases client ip)

theorem standing_eq_held_iff :
    pool.standing leases ip client = .held ↔ leases.holder ip = some client := by
  unfold standing
  cases leases.holder ip with
  | none => by_cases hserver : ip = pool.server <;> simp [hserver]
  | some holder => by_cases hholder : holder = client <;> simp [hholder]

theorem standing_eq_unclaimed_iff :
    pool.standing leases ip client = .unclaimed ↔
      leases.holder ip = none ∧ ip ≠ pool.server := by
  unfold standing
  cases leases.holder ip with
  | none => by_cases hserver : ip = pool.server <;> simp [hserver]
  | some holder => by_cases hholder : holder = client <;> simp [hholder]

/-- An address is available to its holder, and to anybody if it is unclaimed and silent. -/
theorem isAvailable_iff :
    (pool.isAvailable leases probe asked ip client).1 = true ↔
      leases.holder ip = some client ∨
        ((leases.holder ip = none ∧ ip ≠ pool.server) ∧ probe asked ip = false) := by
  rw [← @standing_eq_held_iff pool, ← @standing_eq_unclaimed_iff pool]
  unfold isAvailable
  cases pool.standing leases ip client <;> simp

theorem isAvailable_of_held (hholder : leases.holder ip = some client) :
    pool.isAvailable leases probe asked ip client = (true, []) := by
  have hstanding : pool.standing leases ip client = .held := standing_eq_held_iff.mpr hholder
  rw [isAvailable, hstanding]

theorem free_of_isAvailable (h : (pool.isAvailable leases probe asked ip client).1 = true) :
    pool.Free leases client ip := by
  rcases isAvailable_iff.mp h with hheld | ⟨hunclaimed, -⟩
  · exact .inl hheld
  · exact .inr hunclaimed

/-! ## Searching the window -/

theorem search_succ (count number asked : Nat) :
    (pool.search leases probe client (count + 1) number asked).1 =
      if (pool.isAvailable leases probe asked (IPv4.ofNat number) client).1 = true then
        some (IPv4.ofNat number)
      else (pool.search leases probe client count (number + 1)
        (asked + (pool.isAvailable leases probe asked (IPv4.ofNat number) client).2.length)).1 := by
  rw [search]
  rcases pool.isAvailable leases probe asked (IPv4.ofNat number) client with ⟨_ | _, questions⟩ <;>
    rfl

/-- A search finds an address of its range that is free. -/
theorem of_search {count number asked : Nat}
    (h : (pool.search leases probe client count number asked).1 = some ip) :
    (∃ n, number ≤ n ∧ n < number + count ∧ ip = IPv4.ofNat n) ∧ pool.Free leases client ip := by
  induction count generalizing number asked with
  | zero => simp [search] at h
  | succ count ih =>
      rw [search_succ] at h
      split at h
      next havailable =>
        obtain rfl := Option.some.inj h
        exact ⟨⟨number, Nat.le_refl _, by omega, rfl⟩, free_of_isAvailable havailable⟩
      next =>
        obtain ⟨⟨n, hn, hlt, hip⟩, hfree⟩ := ih h
        exact ⟨⟨n, by omega, by omega, hip⟩, hfree⟩

/-- A search finds an address of its range if nothing before it is available and it is. -/
theorem search_eq_some {count number asked : Nat} (hlower : number ≤ ip.toNat)
    (hupper : ip.toNat < number + count)
    (havailable : ∀ asked, (pool.isAvailable leases probe asked ip client).1 = true)
    (hearlier : ∀ n asked, n < ip.toNat →
      (pool.isAvailable leases probe asked (IPv4.ofNat n) client).1 = false) :
    (pool.search leases probe client count number asked).1 = some ip := by
  induction count generalizing number asked with
  | zero => omega
  | succ count ih =>
      rw [search_succ]
      rcases Nat.eq_or_lt_of_le hlower with hnumber | hnumber
      · rw [hnumber, IPv4.ofNat_toNat, if_pos (havailable asked)]
      · rw [hearlier number asked hnumber, if_neg Bool.false_ne_true]
        exact ih hnumber (by omega)

theorem contains_iff :
    pool.contains ip = true ↔ pool.start ≤ ip.toNat ∧ ip.toNat < pool.finish := by
  simp [contains]

theorem finish_le (pool : Pool) : pool.finish ≤ wordMax := Nat.min_le_right ..

theorem contains_ofNat {n : Nat} (hlower : pool.start ≤ n) (hupper : n < pool.start + pool.size) :
    pool.contains (IPv4.ofNat n) = true := by
  have hn : n < pool.finish := by
    rw [size] at hupper
    omega
  have hfinish := pool.finish_le
  rw [contains_iff, IPv4.toNat_ofNat (by rw [wordMax] at hfinish; omega)]
  exact ⟨hlower, hn⟩

theorem mem_window_iff : ip ∈ pool.window ↔ pool.contains ip = true := by
  rw [window, firstAddresses, Nat.min_self, List.mem_map]
  constructor
  · rintro ⟨n, hn, rfl⟩
    obtain ⟨hlower, hupper⟩ := List.mem_range'_1.mp hn
    exact contains_ofNat hlower hupper
  · intro hcontains
    obtain ⟨hlower, hupper⟩ := contains_iff.mp hcontains
    refine ⟨ip.toNat, List.mem_range'_1.mpr ⟨hlower, ?_⟩, IPv4.ofNat_toNat ip⟩
    rw [size]
    omega

end Pool

/-! ## Verdicts -/

def Verdict.granted? : Verdict → Option IPv4
  | .offer ip => some ip
  | .acknowledge ip => some ip
  | _ => none

variable {config : Config} {leases : Leases} {probe : Probe} {packet : Packet} {ip : IPv4}

theorem granted?_offSubnet (named : IPv4) :
    (offSubnet config packet named).verdict.granted? = none := by
  unfold offSubnet
  split <;> rfl

/-! ## Where a granted address comes from -/

/-- A packet asks for an address: as the requested one of a client that looks for an address, and as
the client's own or the requested one of a client that requests it. 0.0.0.0 is no address. -/
def Packet.AsksFor (packet : Packet) (ip : IPv4) : Prop :=
  ip ≠ .unspecified ∧
    ((packet.messageCode? = some MessageType.discover.code ∧ packet.requestedAddress? = some ip) ∨
      (packet.messageCode? = some MessageType.request.code ∧
        (packet.clientAddress = ip ∨ packet.requestedAddress? = some ip)))

inductive Pool.Source (pool : Pool) (leases : Leases) (packet : Packet) (ip : IPv4) : Prop
  | held (haddress : leases.addressOf packet.clientKey = some ip)
  | window (hcontains : pool.contains ip = true) (hfree : pool.Free leases packet.clientKey ip)
  | asked (hasks : packet.AsksFor ip) (hvalid : pool.isValid ip = true)
      (hfree : pool.Free leases packet.clientKey ip)

theorem Pool.Source.grantable {pool : Pool} (h : pool.Source leases packet ip) :
    pool.Grantable leases packet.clientKey ip := by
  cases h with
  | held haddress => exact .inl haddress
  | window hcontains hfree => exact .inr ⟨.inr hcontains, hfree⟩
  | asked hasks hvalid hfree => exact .inr ⟨.inl hvalid, hfree⟩

theorem Pool.source_of_allocate {pool : Pool} {asked : Nat}
    (h : (pool.allocate leases probe asked packet.clientKey).1 = some ip) :
    pool.Source leases packet ip := by
  unfold allocate at h
  cases haddress : leases.addressOf packet.clientKey with
  | some own =>
      rw [haddress] at h
      obtain rfl := Option.some.inj h
      exact .held haddress
  | none =>
      rw [haddress] at h
      obtain ⟨⟨n, hlower, hupper, rfl⟩, hfree⟩ := of_search h
      exact .window (contains_ofNat hlower hupper) hfree

theorem source_of_offerAny {asked : List Question}
    (h : (offerAny config leases probe packet asked).verdict.granted? = some ip) :
    (Pool.ofConfig config).Source leases packet ip := by
  unfold offerAny at h
  split at h
  next found questions hallocate =>
    cases found with
    | none => simp [Verdict.granted?] at h
    | some found =>
        obtain rfl := Option.some.inj h
        exact Pool.source_of_allocate (congrArg Prod.fst hallocate)

theorem source_of_named {named : IPv4} {asked : Nat} (hasks : packet.AsksFor named)
    (hvalid : ¬(!(Pool.ofConfig config).isValid named) = true)
    (havailable : ((Pool.ofConfig config).isAvailable leases probe asked named
      packet.clientKey).1 = true) :
    (Pool.ofConfig config).Source leases packet named :=
  .asked hasks (by simpa using hvalid) (Pool.free_of_isAvailable havailable)

theorem asksFor_of_claimedAddress? (hkind : packet.messageCode? = some MessageType.request.code)
    (h : claimedAddress? packet = some ip) : packet.AsksFor ip := by
  unfold claimedAddress? at h
  split at h
  next =>
    obtain ⟨named, hrequested, hnamed⟩ := Option.bind_eq_some_iff.mp h
    obtain ⟨rfl, hspecified⟩ := IPv4.specified?_eq_some_iff.mp hnamed
    exact ⟨hspecified, .inr ⟨hkind, .inr hrequested⟩⟩
  next hown =>
    obtain rfl := Option.some.inj h
    exact ⟨fun hzero => hown (IPv4.isUnspecified_eq_true.mpr hzero), .inr ⟨hkind, .inl rfl⟩⟩

theorem source_of_onDiscover (hkind : packet.messageCode? = some MessageType.discover.code)
    (h : (onDiscover config leases probe packet).verdict.granted? = some ip) :
    (Pool.ofConfig config).Source leases packet ip := by
  unfold onDiscover at h
  dsimp only at h
  split at h
  · exact source_of_offerAny h
  next named hnamed =>
    split at h
    · simp [granted?_offSubnet] at h
    next hvalid =>
      split at h
      next havailable =>
        obtain rfl := Option.some.inj h
        obtain ⟨ip, hrequested, hip⟩ := Option.bind_eq_some_iff.mp hnamed
        obtain ⟨rfl, hspecified⟩ := IPv4.specified?_eq_some_iff.mp hip
        exact source_of_named ⟨hspecified, .inl ⟨hkind, hrequested⟩⟩ hvalid havailable
      · exact source_of_offerAny h

theorem source_of_onClaim (hkind : packet.messageCode? = some MessageType.request.code)
    (h : (onClaim config leases probe packet).verdict.granted? = some ip) :
    (Pool.ofConfig config).Source leases packet ip := by
  unfold onClaim at h
  dsimp only at h
  split at h
  · simp [unresolved, Verdict.granted?] at h
  next named hnamed =>
    split at h
    · simp [granted?_offSubnet] at h
    next hvalid =>
      split at h
      next havailable =>
        obtain rfl := Option.some.inj h
        exact source_of_named (asksFor_of_claimedAddress? hkind hnamed) hvalid havailable
      · simp [Decision.after, unresolved, Verdict.granted?] at h

theorem MessageType.code_of_ofCode? {code : UInt8} {kind : MessageType}
    (h : ofCode? code = some kind) : code = kind.code := by
  have hfound := List.find?_some h
  exact (of_decide_eq_true hfound).symm

/-- How a packet is decided depends neither on the leases nor on the probe: as that of a client that
looks for an address, as that of one that claims an address, or without a question and without
granting anything. -/
theorem decision_cases (config : Config) (packet : Packet) :
    (packet.messageCode? = some MessageType.discover.code ∧ ∃ log, ∀ leases probe,
        verdict config leases probe packet =
          (onDiscover config leases probe packet).after log) ∨
      (packet.messageCode? = some MessageType.request.code ∧ ∃ log, ∀ leases probe,
        verdict config leases probe packet = (onClaim config leases probe packet).after log) ∨
      ∃ fixed log, fixed.granted? = none ∧ ∀ leases probe,
        verdict config leases probe packet = .plain fixed log := by
  unfold verdict
  split
  · exact .inr (.inr ⟨_, _, rfl, fun _ _ => rfl⟩)
  split
  · exact .inr (.inr ⟨_, _, rfl, fun _ _ => rfl⟩)
  split
  · exact .inr (.inr ⟨_, _, rfl, fun _ _ => rfl⟩)
  next code hcode =>
    split
    next hdiscover =>
      obtain rfl := MessageType.code_of_ofCode? hdiscover
      exact .inl ⟨hcode, _, fun _ _ => rfl⟩
    next hrequest =>
      obtain rfl := MessageType.code_of_ofCode? hrequest
      unfold onRequest
      dsimp only
      split
      · exact .inr (.inr ⟨_, _, rfl, fun _ _ => rfl⟩)
      · exact .inr (.inl ⟨hcode, _, fun _ _ => rfl⟩)
    next => exact .inr (.inr ⟨_, _, rfl, fun _ _ => rfl⟩)

theorem verdict_cases (config : Config) (packet : Packet) :
    (packet.messageCode? = some MessageType.discover.code ∧
        ∀ leases probe, (verdict config leases probe packet).verdict =
          (onDiscover config leases probe packet).verdict) ∨
      (packet.messageCode? = some MessageType.request.code ∧
        ∀ leases probe, (verdict config leases probe packet).verdict =
          (onClaim config leases probe packet).verdict) ∨
      ∃ fixed : Verdict, fixed.granted? = none ∧
        ∀ leases probe, (verdict config leases probe packet).verdict = fixed := by
  rcases decision_cases config packet with
    ⟨hkind, log, hdecision⟩ | ⟨hkind, log, hdecision⟩ | ⟨fixed, log, hnothing, hdecision⟩
  · refine .inl ⟨hkind, fun leases probe => ?_⟩
    rw [hdecision]
    rfl
  · refine .inr (.inl ⟨hkind, fun leases probe => ?_⟩)
    rw [hdecision]
    rfl
  · refine .inr (.inr ⟨fixed, hnothing, fun leases probe => ?_⟩)
    rw [hdecision]
    rfl

/-- Whatever the packet, an address that the verdict grants has a source. -/
theorem source_of_verdict
    (h : (verdict config leases probe packet).verdict.granted? = some ip) :
    (Pool.ofConfig config).Source leases packet ip := by
  rcases verdict_cases config packet with
    ⟨hkind, hdiscover⟩ | ⟨hkind, hclaim⟩ | ⟨fixed, hnothing, hfixed⟩
  · rw [hdiscover] at h
    exact source_of_onDiscover hkind h
  · rw [hclaim] at h
    exact source_of_onClaim hkind h
  · rw [hfixed, hnothing] at h
    exact nomatch h

theorem grantable_of_verdict
    (h : (verdict config leases probe packet).verdict.granted? = some ip) :
    (Pool.ofConfig config).Grantable leases packet.clientKey ip :=
  (source_of_verdict h).grantable

/-! ## Addresses that a client holds -/

theorem verdict_offerAny_of_held {asked : List Question}
    (haddress : leases.addressOf packet.clientKey = some ip) :
    (offerAny config leases probe packet asked).verdict = .offer ip := by
  simp only [offerAny, Pool.allocate, haddress]

/-- Whoever claims the address that it holds gets it, and nobody is asked. -/
theorem onClaim_of_held (hclaimed : claimedAddress? packet = some ip)
    (hvalid : (Pool.ofConfig config).isValid ip = true)
    (hholder : leases.holder ip = some packet.clientKey) :
    onClaim config leases probe packet = ⟨.acknowledge ip, [], []⟩ := by
  have havailable : (Pool.ofConfig config).isAvailable leases probe 0 ip packet.clientKey =
      (true, []) := Pool.isAvailable_of_held hholder
  simp only [onClaim, hclaimed, hvalid, havailable, Bool.not_true, Bool.false_eq_true, if_false,
    if_true]

/-! ## Requests to this server -/

/-- A request that passes the filters and is addressed to this server, by the server identifier or
else by the server address. -/
structure Packet.RequestsFrom (packet : Packet) (config : Config) : Prop where
  op_eq : packet.op = requestOp
  kind : packet.messageCode? = some MessageType.request.code
  heard : config.dhcp.broadcastsOnly = false ∨ packet.isBroadcast = true
  addressed : packet.serverIdentifier? = some config.address ∨
    (packet.serverIdentifier? = none ∧
      (packet.serverAddress = .unspecified ∨ packet.serverAddress = config.address))

/-- What becomes of a request to this server is decided by the address that it claims. -/
theorem Packet.RequestsFrom.verdict_eq (h : packet.RequestsFrom config) (leases : Leases)
    (probe : Probe) :
    (verdict config leases probe packet).verdict =
        (onClaim config leases probe packet).verdict ∧
      (verdict config leases probe packet).questions =
        (onClaim config leases probe packet).questions := by
  have hheard : (config.dhcp.broadcastsOnly && !packet.isBroadcast) = false := by
    rcases h.heard with hall | hbroadcast
    · rw [hall, Bool.false_and]
    · rw [hbroadcast, Bool.not_true, Bool.and_false]
  have hserver : (!(intendedServer packet).isUnspecified &&
      intendedServer packet != config.address) = false := by
    rcases h.addressed with hidentifier | ⟨hidentifier, hany | hserver⟩
    · simp [intendedServer, hidentifier]
    · have hspecified := IPv4.isUnspecified_eq_true.mpr hany
      simp [intendedServer, hidentifier, hspecified]
    · simp [intendedServer, hidentifier, hserver]
  simp only [verdict, h.op_eq, hheard, h.kind, MessageType.ofCode?_code, onRequest, hserver,
    Bool.false_eq_true, if_false, ne_eq, not_true_eq_false, Decision.after, and_self]

end BootServer.Dhcp
