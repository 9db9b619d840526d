import BootServer.Proofs.Dhcp.LeaseSet
import BootServer.Proofs.Dhcp.Visits

/-!
# The first silent address

A client without a lease is given the least address of the window that nobody holds, that is not the
server's own, and where nobody answers. The probe is asked about the unclaimed addresses in turn, up
to the one that is given. So whatever a client asks for, an address is newly leased only after the
probe has found nobody there.
-/

namespace BootServer.Dhcp

variable {probe : Probe} {asked : Nat} {alive : IPv4 → Bool} {candidates rest : List IPv4} {ip : IPv4}

/-! ## Asking about addresses in turn -/

/-- When the probe is asked about addresses in turn, `alive` is what it answers about each. -/
def Probe.Answers (probe : Probe) (asked : Nat) (alive : IPv4 → Bool) (candidates : List IPv4) :
    Prop :=
  ∀ n ip, candidates[n]? = some ip → probe (asked + n) ip = alive ip

theorem Probe.Answers.head (h : probe.Answers asked alive (ip :: rest)) :
    probe asked ip = alive ip :=
  h 0 ip rfl

theorem Probe.Answers.tail (h : probe.Answers asked alive (ip :: rest)) :
    probe.Answers (asked + 1) alive rest := by
  intro n other hother
  rw [Nat.add_assoc, Nat.add_comm 1 n]
  exact h (n + 1) other hother

theorem Probe.answers_idxOf (probe : Probe) (asked : Nat) (h : candidates.Nodup) :
    probe.Answers asked (fun ip => probe (asked + candidates.idxOf ip) ip) candidates := by
  intro n ip hip
  obtain ⟨hn, rfl⟩ := List.getElem?_eq_some_iff.mp hip
  dsimp only
  rw [h.idxOf_getElem n hn]

/-- The questions about addresses in turn, up to the first one where nobody answers. -/
def questionsAbout (alive : IPv4 → Bool) : List IPv4 → List Question
  | [] => []
  | ip :: rest => ⟨ip, alive ip⟩ :: if alive ip then questionsAbout alive rest else []

def Ascending (candidates : List IPv4) : Prop :=
  candidates.Pairwise fun first second => first.toNat < second.toNat

namespace Ascending

theorem nodup (h : Ascending candidates) : candidates.Nodup := by
  refine h.imp ?_
  rintro first second hlt rfl
  exact Nat.lt_irrefl _ hlt

/-- The first silent address is the least one. -/
theorem find?_eq_some_iff (h : Ascending candidates) :
    candidates.find? (!alive ·) = some ip ↔
      ip ∈ candidates ∧ alive ip = false ∧
        ∀ other ∈ candidates, alive other = false → ip.toNat ≤ other.toNat := by
  induction candidates with
  | nil => simp
  | cons first rest ih =>
      obtain ⟨hfirst, hrest⟩ := List.pairwise_cons.mp h
      cases hanswer : alive first with
      | true =>
          rw [List.find?_cons_of_neg (by simp [hanswer]), ih hrest, List.forall_mem_cons,
            List.mem_cons]
          constructor
          · rintro ⟨hmem, hsilent, hleast⟩
            exact ⟨.inr hmem, hsilent, by simp [hanswer], hleast⟩
          · rintro ⟨rfl | hmem, hsilent, -, hleast⟩
            · simp [hanswer] at hsilent
            · exact ⟨hmem, hsilent, hleast⟩
      | false =>
          rw [List.find?_cons_of_pos (by simp [hanswer]), Option.some_inj]
          constructor
          · rintro rfl
            refine ⟨List.mem_cons_self, hanswer, List.forall_mem_cons.mpr ⟨fun _ => Nat.le_refl _, ?_⟩⟩
            exact fun other hother _ => Nat.le_of_lt (hfirst other hother)
          · rintro ⟨hmem, -, hleast⟩
            have hle := hleast first List.mem_cons_self hanswer
            rcases List.mem_cons.mp hmem with rfl | hmem
            · rfl
            · exact absurd (hfirst ip hmem) (Nat.not_lt.mpr hle)

theorem questionsAbout_eq (h : Ascending candidates) :
    questionsAbout alive candidates =
      (match candidates.find? (!alive ·) with
        | none => candidates
        | some ip => candidates.filter (·.toNat ≤ ip.toNat)).map fun ip => ⟨ip, alive ip⟩ := by
  induction candidates with
  | nil => rfl
  | cons first rest ih =>
      obtain ⟨hfirst, hrest⟩ := List.pairwise_cons.mp h
      cases hanswer : alive first with
      | true =>
          rw [questionsAbout, hanswer, if_pos rfl, ih hrest,
            List.find?_cons_of_neg (by simp [hanswer])]
          cases hfound : rest.find? (!alive ·) with
          | none => simp [hanswer]
          | some ip =>
              have hle : first.toNat ≤ ip.toNat :=
                Nat.le_of_lt (hfirst ip (List.mem_of_find?_eq_some hfound))
              simp [hanswer, hle]
      | false =>
          have hlater : rest.filter (·.toNat ≤ first.toNat) = [] := by
            simpa using hfirst
          rw [questionsAbout, List.find?_cons_of_pos (by simp [hanswer])]
          simp [hanswer, hlater]

end Ascending

namespace Pool

variable {pool : Pool} {leases : Leases} {client : String}

/-! ## The unclaimed addresses of the window -/

/-- Nobody holds an address, and it is not the server's own. -/
def isUnclaimed (pool : Pool) (leases : Leases) (ip : IPv4) : Bool :=
  (leases.holder ip).isNone && ip ≠ pool.server

/-- The unclaimed addresses of the window in ascending order. -/
def unclaimed (pool : Pool) (leases : Leases) : List IPv4 :=
  pool.window.filter (pool.isUnclaimed leases)

theorem isUnclaimed_iff :
    pool.isUnclaimed leases ip = true ↔ leases.holder ip = none ∧ ip ≠ pool.server := by
  simp [isUnclaimed]

theorem mem_unclaimed_iff :
    ip ∈ pool.unclaimed leases ↔
      ip ∈ pool.window ∧ leases.holder ip = none ∧ ip ≠ pool.server := by
  rw [unclaimed, List.mem_filter, isUnclaimed_iff]

theorem window_eq (pool : Pool) :
    pool.window = (List.range' pool.start pool.size).map IPv4.ofNat := by
  rw [window, firstAddresses, Nat.min_self]

theorem ascending_window (pool : Pool) : Ascending pool.window := by
  have hfinish := pool.finish_le
  rw [window_eq, Ascending, List.pairwise_map]
  refine List.Pairwise.imp_of_mem ?_ List.pairwise_lt_range'
  intro first second hfirst hsecond hlt
  have hsize : pool.size = pool.finish - pool.start := rfl
  rw [List.mem_range'_1] at hfirst hsecond
  rw [wordMax] at hfinish
  rw [IPv4.toNat_ofNat (by omega), IPv4.toNat_ofNat (by omega)]
  exact hlt

theorem ascending_unclaimed (pool : Pool) (leases : Leases) : Ascending (pool.unclaimed leases) :=
  pool.ascending_window.filter _

/-! ## Searching -/

theorem isAvailable_of_unclaimed (h : pool.isUnclaimed leases ip = true) :
    pool.isAvailable leases probe asked ip client = (!probe asked ip, [⟨ip, probe asked ip⟩]) := by
  have hstanding : pool.standing leases ip client = .unclaimed :=
    standing_eq_unclaimed_iff.mpr (isUnclaimed_iff.mp h)
  rw [isAvailable, hstanding]

theorem isAvailable_of_claimed (hclient : leases.holder ip ≠ some client)
    (h : ¬ pool.isUnclaimed leases ip = true) :
    pool.isAvailable leases probe asked ip client = (false, []) := by
  rw [isUnclaimed_iff, ← @standing_eq_unclaimed_iff pool leases client ip] at h
  rw [Ne, ← @standing_eq_held_iff pool] at hclient
  rw [isAvailable]
  cases hstanding : pool.standing leases ip client with
  | held => exact absurd hstanding hclient
  | unclaimed => exact absurd hstanding h
  | taken | reserved => rfl

/-- A search for a client without a lease asks about the unclaimed addresses of its range in turn. -/
theorem search_eq (hclient : ∀ ip, leases.holder ip ≠ some client) {count number : Nat}
    (hrange : ((List.range' number count).map IPv4.ofNat).filter (pool.isUnclaimed leases) =
      candidates) (h : probe.Answers asked alive candidates) :
    pool.search leases probe client count number asked =
      (candidates.find? (!alive ·), questionsAbout alive candidates) := by
  induction count generalizing number asked candidates with
  | zero =>
      subst hrange
      rfl
  | succ count ih =>
      rw [List.range'_succ, List.map_cons] at hrange
      by_cases hunclaimed : pool.isUnclaimed leases (IPv4.ofNat number) = true
      · rw [List.filter_cons_of_pos hunclaimed] at hrange
        subst hrange
        have hlater := ih rfl h.tail
        simp only [search, isAvailable_of_unclaimed hunclaimed, h.head]
        cases hanswer : alive (IPv4.ofNat number) with
        | true => simp [questionsAbout, hanswer, hlater]
        | false => simp [questionsAbout, hanswer]
      · -- it is passed over without a question
        rw [List.filter_cons_of_neg hunclaimed] at hrange
        have hlater := ih hrange h
        simp [search, isAvailable_of_claimed (hclient _) hunclaimed, hlater]

theorem allocate_of_held (h : leases.addressOf client = some ip) :
    pool.allocate leases probe asked client = (some ip, []) := by
  rw [allocate, h]

theorem allocate_of_none (hconsistent : leases.Consistent) (hnone : leases.addressOf client = none)
    (h : probe.Answers asked alive (pool.unclaimed leases)) :
    pool.allocate leases probe asked client =
      ((pool.unclaimed leases).find? (!alive ·), questionsAbout alive (pool.unclaimed leases)) := by
  have hclient : ∀ ip, leases.holder ip ≠ some client := by
    intro ip
    rw [Ne, ← hconsistent.inverse, hnone]
    exact (Option.some_ne_none ip).symm
  have hrange : ((List.range' pool.start pool.size).map IPv4.ofNat).filter
      (pool.isUnclaimed leases) = pool.unclaimed leases := by
    rw [unclaimed, window_eq]
  rw [allocate, hnone]
  exact search_eq hclient hrange h

/-! ## No address without a question -/

/-- Nobody held an address, it is not the server's, and the probe was asked and found nobody there. -/
structure FoundFree (pool : Pool) (leases : Leases) (questions : List Question) (ip : IPv4) :
    Prop where
  unleased : leases.holder ip = none
  ne_server : ip ≠ pool.server
  silent : ⟨ip, false⟩ ∈ questions

end Pool

/-- Questions and their answers are those that the probe was asked and gave. -/
def Probe.Gave (probe : Probe) (asked : Nat) (questions : List Question) : Prop :=
  ∀ n question, questions[n]? = some question → question.alive = probe (asked + n) question.ip

namespace Probe.Gave

variable {questions later : List Question}

theorem nil : probe.Gave asked [] := fun _ _ hquestion => nomatch hquestion

theorem singleton (probe : Probe) (asked : Nat) (ip : IPv4) :
    probe.Gave asked [⟨ip, probe asked ip⟩] := by
  intro n question hquestion
  cases n with
  | zero =>
      obtain rfl := Option.some.inj hquestion
      rfl
  | succ n => exact nomatch hquestion

theorem append (h : probe.Gave asked questions) (hlater : probe.Gave (asked + questions.length) later) :
    probe.Gave asked (questions ++ later) := by
  intro n question hquestion
  rcases Nat.lt_or_ge n questions.length with hn | hn
  · rw [List.getElem?_append_left hn] at hquestion
    exact h n question hquestion
  · rw [List.getElem?_append_right hn] at hquestion
    have hgave := hlater _ question hquestion
    rwa [Nat.add_assoc, Nat.add_sub_cancel' hn] at hgave

end Probe.Gave

/-- A search or a verdict is founded on its questions: the probe gave the answers, and an address
that comes out is the client's already, or was found free. -/
structure Founded (pool : Pool) (leases : Leases) (probe : Probe) (asked : Nat) (client : String)
    (found : Option IPv4) (questions : List Question) : Prop where
  gave : probe.Gave asked questions
  own_or_free : ∀ ip, found = some ip →
    leases.holder ip = some client ∨ pool.FoundFree leases questions ip

namespace Founded

variable {pool : Pool} {leases : Leases} {client : String} {found : Option IPv4}
  {questions later : List Question}

theorem after (hgave : probe.Gave asked questions)
    (h : Founded pool leases probe (asked + questions.length) client found later) :
    Founded pool leases probe asked client found (questions ++ later) where
  gave := hgave.append h.gave
  own_or_free ip hip := by
    refine (h.own_or_free ip hip).imp_right ?_
    rintro ⟨hunleased, hserver, hsilent⟩
    exact ⟨hunleased, hserver, List.mem_append_right questions hsilent⟩

theorem nothing (hgave : probe.Gave asked questions) :
    Founded pool leases probe asked client none questions :=
  ⟨hgave, fun _ hip => nomatch hip⟩

theorem of_isAvailable {free : Bool}
    (h : pool.isAvailable leases probe asked ip client = (free, questions)) :
    Founded pool leases probe asked client (if free then some ip else none) questions := by
  rw [Pool.isAvailable] at h
  cases hstanding : pool.standing leases ip client with
  | held =>
      simp only [hstanding, Prod.mk.injEq] at h
      obtain ⟨rfl, rfl⟩ := h
      refine ⟨.nil, ?_⟩
      rintro other ⟨⟩
      exact .inl (Pool.standing_eq_held_iff.mp hstanding)
  | taken | reserved =>
      simp only [hstanding, Prod.mk.injEq] at h
      obtain ⟨rfl, rfl⟩ := h
      exact nothing .nil
  | unclaimed =>
      obtain ⟨hunleased, hserver⟩ := Pool.standing_eq_unclaimed_iff.mp hstanding
      simp only [hstanding, Prod.mk.injEq] at h
      obtain ⟨rfl, rfl⟩ := h
      have hgave := Probe.Gave.singleton probe asked ip
      cases hanswer : probe asked ip with
      | true =>
          rw [hanswer] at hgave
          exact nothing hgave
      | false =>
          rw [hanswer] at hgave
          refine ⟨hgave, ?_⟩
          rintro other ⟨⟩
          exact .inr ⟨hunleased, hserver, List.mem_singleton_self _⟩

theorem search (count number asked : Nat) :
    Founded pool leases probe asked client (pool.search leases probe client count number asked).1
      (pool.search leases probe client count number asked).2 := by
  induction count generalizing number asked with
  | zero => exact nothing .nil
  | succ count ih =>
      rw [Pool.search]
      rcases havailable : pool.isAvailable leases probe asked (IPv4.ofNat number) client with
        ⟨_ | _, questions⟩
      · exact (ih (number + 1) (asked + questions.length)).after (of_isAvailable havailable).gave
      · exact of_isAvailable havailable

theorem allocate (hconsistent : leases.Consistent) (asked : Nat) :
    Founded pool leases probe asked client (pool.allocate leases probe asked client).1
      (pool.allocate leases probe asked client).2 := by
  unfold Pool.allocate
  cases haddress : leases.addressOf client with
  | none => exact search pool.size pool.start asked
  | some own =>
      refine ⟨.nil, ?_⟩
      rintro ip ⟨⟩
      exact .inl ((hconsistent.inverse client _).mp haddress)

end Founded

def Decision.Founded (decision : Decision) (config : Config) (leases : Leases) (probe : Probe)
    (client : String) : Prop :=
  Dhcp.Founded (Pool.ofConfig config) leases probe 0 client decision.verdict.granted?
    decision.questions

section

variable {config : Config} {leases : Leases} {packet : Packet}

theorem founded_offSubnet (named : IPv4) :
    (offSubnet config packet named).Founded config leases probe packet.clientKey := by
  unfold Decision.Founded
  rw [granted?_offSubnet]
  unfold offSubnet
  split
  · exact .nothing .nil
  · exact .nothing .nil

theorem founded_offerAny (hconsistent : leases.Consistent) {questions : List Question}
    (hgave : probe.Gave 0 questions) :
    (offerAny config leases probe packet questions).Founded config leases probe
      packet.clientKey := by
  have hfound : Founded (Pool.ofConfig config) leases probe (0 + questions.length) packet.clientKey
      _ _ := .allocate hconsistent (0 + questions.length)
  have hafter := hfound.after hgave
  rw [Nat.zero_add] at hafter
  -- what a discovery asked about the address that it named comes first
  unfold offerAny
  dsimp only
  rcases hallocate : (Pool.ofConfig config).allocate leases probe questions.length
    packet.clientKey with ⟨_ | ip, later⟩
  · rw [hallocate] at hafter
    exact hafter
  · rw [hallocate] at hafter
    exact hafter

theorem founded_onDiscover (hconsistent : leases.Consistent) :
    (onDiscover config leases probe packet).Founded config leases probe packet.clientKey := by
  unfold onDiscover
  dsimp only
  split
  · exact founded_offerAny hconsistent .nil
  next named _ =>
    split
    · exact founded_offSubnet named
    · rcases havailable : (Pool.ofConfig config).isAvailable leases probe 0 named
        packet.clientKey with ⟨_ | _, questions⟩
      · exact founded_offerAny hconsistent (Founded.of_isAvailable havailable).gave
      · exact Founded.of_isAvailable havailable

theorem founded_onClaim :
    (onClaim config leases probe packet).Founded config leases probe packet.clientKey := by
  unfold onClaim
  dsimp only
  split
  · exact .nothing .nil
  next named _ =>
    split
    · exact founded_offSubnet named
    · rcases havailable : (Pool.ofConfig config).isAvailable leases probe 0 named
        packet.clientKey with ⟨_ | _, questions⟩
      · exact .nothing (Founded.of_isAvailable havailable).gave
      · exact Founded.of_isAvailable havailable

theorem founded_verdict (hconsistent : leases.Consistent) :
    (verdict config leases probe packet).Founded config leases probe packet.clientKey := by
  rcases decision_cases config packet with
    ⟨-, log, hdecision⟩ | ⟨-, log, hdecision⟩ | ⟨fixed, log, hnothing, hdecision⟩
  · rw [hdecision]
    exact founded_onDiscover hconsistent
  · rw [hdecision]
    exact founded_onClaim
  · rw [hdecision, Decision.Founded, Decision.plain, hnothing]
    exact .nothing .nil

end

namespace Visit

variable {config : Config} {leases : Leases}

theorem questions_outcome (config : Config) (leases : Leases) (visit : Visit) :
    (visit.outcome config leases).questions =
      (verdict config leases visit.probe visit.packet).questions := by
  unfold outcome handle settle
  cases (verdict config leases visit.probe visit.packet).verdict <;> rfl

theorem consistent (h : leases.Consistent) (visit : Visit) :
    (visit.outcome config leases).leases.Consistent := by
  rcases outcome_cases config leases visit with hnothing | ⟨ip, -, hgrants⟩
  · rw [hnothing.leases_eq]
    exact h
  · rw [hgrants.leases_eq]
    exact h.assign visit.client ip

/-- A new lease is that of the visit's own client, and its address was found free. -/
theorem foundFree_of_newly_leased (h : leases.Consistent) (visit : Visit) {client : String}
    (hafter : (visit.outcome config leases).leases.addressOf client = some ip)
    (hbefore : leases.addressOf client ≠ some ip) :
    client = visit.client ∧
      (Pool.ofConfig config).FoundFree leases (visit.outcome config leases).questions ip := by
  cases hgranted : (verdict config leases visit.probe visit.packet).verdict.granted? with
  | none =>
      rw [(grantsNothing_of_verdict hgranted).leases_eq] at hafter
      exact absurd hafter hbefore
  | some granted =>
      rw [(grants_of_verdict hgranted).leases_eq, Leases.addressOf_assign h] at hafter
      split at hafter
      next hclient =>
        obtain rfl := Option.some.inj hafter
        subst hclient
        refine ⟨rfl, ?_⟩
        rw [questions_outcome]
        rcases (founded_verdict h).own_or_free granted hgranted with hown | hfree
        · exact absurd ((h.inverse _ _).mpr hown) hbefore
        · exact hfree
      next =>
        split at hafter
        · exact nomatch hafter
        · exact absurd hafter hbefore

end Visit

theorem consistent_leasesAfter {config : Config} {leases : Leases} (h : leases.Consistent)
    (visits : List Visit) : (leasesAfter config leases visits).Consistent :=
  leasesAfter_induction Leases.Consistent (fun _ visit hleases => Visit.consistent hleases visit) h
    visits

/-- Allocation on a table that any assignments have built. A client with a lease gets its address, and
nobody is asked. Any other client gets the least unclaimed address of the window where nobody answers
when the probe comes to it, and none just when somebody answers everywhere; the probe is asked about
the unclaimed addresses in ascending order up to the one that is given, or about all of them. So
after any visits, the next one makes a new lease only for its own client, and of an address that nobody
held, that is not the server's, and about which the probe was asked in this visit and found nobody. -/
theorem allocation_takes_least_silent_address (pool : Pool) (given : List Lease) (probe : Probe)
    (asked : Nat) (client : String) (config : Config) (visits : List Visit) (visit : Visit) :
    (let leases := Leases.empty.assignAll given
      let unclaimed := pool.unclaimed leases
      let alive ip := probe (asked + unclaimed.idxOf ip) ip
      let result := pool.allocate leases probe asked client
      unclaimed.Pairwise (fun first second => first.toNat < second.toNat) ∧
        (∀ ip, ip ∈ unclaimed ↔
          ip ∈ pool.window ∧ leases.holder ip = none ∧ ip ≠ pool.server) ∧
        (∀ own, leases.addressOf client = some own → result = (some own, [])) ∧
        (leases.addressOf client = none →
          (∀ ip, result.1 = some ip ↔ ip ∈ unclaimed ∧ alive ip = false ∧
            ∀ other ∈ unclaimed, alive other = false → ip.toNat ≤ other.toNat) ∧
          (result.1 = none ↔ ∀ ip ∈ unclaimed, alive ip = true) ∧
          result.2 = (match result.1 with
            | none => unclaimed
            | some ip => unclaimed.filter (·.toNat ≤ ip.toNat)).map fun ip => ⟨ip, alive ip⟩)) ∧
      (let leases := leasesAfter config (Leases.empty.assignAll given) visits
        let outcome := visit.outcome config leases
        ∀ client ip, outcome.leases.addressOf client = some ip →
          leases.addressOf client ≠ some ip →
          client = visit.client ∧ leases.holder ip = none ∧ ip ≠ config.address ∧
            ∃ n, outcome.questions[n]? = some ⟨ip, false⟩ ∧ visit.probe n ip = false) := by
  have hconsistent : (Leases.empty.assignAll given).Consistent :=
    Leases.consistent_empty.assignAll given
  constructor
  · intro leases unclaimed alive result
    have hascending : Ascending unclaimed := pool.ascending_unclaimed leases
    refine ⟨hascending, fun ip => Pool.mem_unclaimed_iff, fun own => Pool.allocate_of_held, ?_⟩
    intro hnone
    have hresult : result = (unclaimed.find? (!alive ·), questionsAbout alive unclaimed) :=
      Pool.allocate_of_none hconsistent hnone (probe.answers_idxOf asked hascending.nodup)
    rw [hresult]
    refine ⟨fun ip => hascending.find?_eq_some_iff, ?_, hascending.questionsAbout_eq⟩
    simp
  · intro leases outcome client ip hafter hbefore
    have hleases : leases.Consistent := consistent_leasesAfter hconsistent visits
    obtain ⟨hclient, hunleased, hserver, hsilent⟩ :=
      Visit.foundFree_of_newly_leased hleases visit hafter hbefore
    obtain ⟨n, hn⟩ := List.mem_iff_getElem?.mp hsilent
    have hquestions : outcome.questions = _ := Visit.questions_outcome config leases visit
    have hgave := (founded_verdict hleases).gave n _ (hquestions ▸ hn)
    rw [Nat.zero_add] at hgave
    exact ⟨hclient, hunleased, hserver, n, hn, hgave.symm⟩

end BootServer.Dhcp
