import BootServer.Operator.Commands
import BootServer.Proofs.Config.JsonForm
import BootServer.Proofs.Storage.Refusals
import BootServer.Proofs.Storage.Saving

/-!
# Starting again from a saved configuration

Filling in blanks is done once: what has been completed has no blank that would be filled in
otherwise. What a server starts with is therefore what it starts with again from the file that it
saves, whichever of the two forms the path chooses, and the file does not change any more.
-/

namespace BootServer

namespace Config

variable {config : Config} {disk saved : Disk} {path : String}

theorem isBlank_filled {α : Type} (isBlank : α → Bool) {filling : α}
    (h : isBlank filling = false) (value : α) :
    isBlank (if isBlank value then filling else value) = false := by
  split
  next => exact h
  next hvalue => exact eq_false_of_ne_true hvalue

/-- Nothing but the base of the pool can be blank still: it is where the server's own network is. -/
theorem lacks_completed {key : Key} (h : key ≠ .dhcpPoolBase) :
    config.completed.lacks key = false := by
  cases key
  case dhcpPoolBase => exact absurd rfl h
  case dhcpSubnetMask =>
    have hmask : (IPv4.ofOctets 255 255 255 0).isUnspecified = false := by decide
    exact isBlank_filled IPv4.isUnspecified hmask config.dhcp.subnetMask
  case dhcpPoolOffset =>
    have hoffset : ((20 : UInt32) == 0) = false := by decide
    exact isBlank_filled (· == 0) hoffset config.dhcp.poolOffset
  case dhcpPoolLength =>
    have hlength : ((20 : UInt32) == 0) = false := by decide
    exact isBlank_filled (· == 0) hlength config.dhcp.poolLength
  case tftpRoot =>
    have hroot : "/tftp".isEmpty = false := by decide
    exact isBlank_filled String.isEmpty hroot config.tftp.root
  all_goals rfl

theorem poolBase_completed (h : config.completed.lacks .dhcpPoolBase = true) :
    config.completed.dhcp.poolBase =
      config.completed.address.masked config.completed.dhcp.subnetMask := by
  cases hbase : config.lacks .dhcpPoolBase with
  | true => exact if_pos hbase
  | false =>
      have hkept : config.completed.dhcp.poolBase = config.dhcp.poolBase :=
        if_neg (ne_true_of_eq_false hbase)
      rw [lacks, hkept] at h
      exact absurd h (ne_true_of_eq_false hbase)

theorem completed_eq_self (hfilled : ∀ key, key ≠ .dhcpPoolBase → config.lacks key = false)
    (hpool : config.lacks .dhcpPoolBase = true →
      config.dhcp.poolBase = config.address.masked config.dhcp.subnetMask) :
    config.completed = config := by
  have hbase : (if config.lacks .dhcpPoolBase then config.address.masked config.dhcp.subnetMask
      else config.dhcp.poolBase) = config.dhcp.poolBase := by
    split
    next hlacks => exact (hpool hlacks).symm
    next => rfl
  unfold completed
  simp only [hfilled .dhcpSubnetMask (by decide), hfilled .dhcpPoolOffset (by decide),
    hfilled .dhcpPoolLength (by decide), hfilled .tftpRoot (by decide), Bool.false_eq_true,
    if_false, hbase]

theorem completed_completed (config : Config) : config.completed.completed = config.completed :=
  completed_eq_self (fun _ => lacks_completed) poolBase_completed

theorem oneLineValues_completed (h : config.OneLineValues) : config.completed.OneLineValues := by
  intro key
  by_cases hkind : key.kind = .text
  · cases key
    case interface => exact h .interface
    case dhcpDomain => exact h .dhcpDomain
    case bootFile => exact h .bootFile
    case tftpRoot =>
      change Text.OneLine (if config.lacks .tftpRoot then "/tftp" else config.tftp.root)
      split
      next => exact Text.oneLine_of_all (by decide)
      next => exact h .tftpRoot
    all_goals exact nomatch hkind
  · exact Kind.oneLine_render hkind _

/-- What is loaded from a path without the mark of JSON has values of one line. -/
theorem oneLineValues_of_load (hpath : isJsonPath path = false)
    (h : load disk path = .ok config) : config.OneLineValues := by
  unfold load at h
  split at h
  next =>
    obtain rfl := Except.ok.inj h
    exact oneLineValues_default
  next =>
    split at h
    next => exact nomatch h
    next text hread =>
      rw [hpath, if_neg Bool.false_ne_true] at h
      exact oneLineValues_of_parse h

/-- A configuration that was saved is loaded again, if its path tells JSON or its values stand on one
line each. -/
theorem load_save (hform : isJsonPath path = true ∨ config.OneLineValues)
    (h : config.save disk path = (saved, .ok ())) : load saved path = .ok config := by
  obtain ⟨hthere, hread⟩ := readText_save h
  have hload : load saved path =
      if isJsonPath path then parseJson (config.serialized path)
      else parse (config.serialized path) := by
    rw [load, hthere, hread]
    rfl
  rw [hload, serialized]
  cases hjson : isJsonPath path with
  | true =>
      rw [if_pos rfl, if_pos rfl]
      exact parseJson_renderJson config
  | false =>
      rw [if_neg Bool.false_ne_true, if_neg Bool.false_ne_true]
      exact parse_render (hform.resolve_left (ne_true_of_eq_false hjson))

end Config

namespace Operator

variable {config : Config} {disk later saved : Disk} {path : String}

theorem startup_eq_ok_iff :
    startup disk path = .ok config ↔
      ∃ loaded, Config.load disk path = .ok loaded ∧ config = loaded.completed ∧
        config.validate = .ok () := by
  constructor
  · intro h
    unfold startup at h
    split at h
    next => exact nomatch h
    next loaded hload =>
      split at h
      next => exact nomatch h
      next hvalid =>
        obtain rfl := Except.ok.inj h
        exact ⟨loaded, hload, rfl, hvalid⟩
  · rintro ⟨loaded, hload, rfl, hvalid⟩
    simp only [startup, hload, hvalid]

/-- A server that saves its configuration to the path from which it was started, at any later time,
starts with the same configuration again, and saving that once more leaves the file's text alone. -/
theorem startup_of_saved (hstart : startup disk path = .ok config)
    (hsave : config.save later path = (saved, .ok ())) :
    startup saved path = .ok config ∧ saved.readText path = .ok (config.serialized path) ∧
      ∃ again, config.save saved path = (again, .ok ()) ∧
        again.readText path = saved.readText path := by
  obtain ⟨loaded, hload, hcompleted, hvalid⟩ := startup_eq_ok_iff.mp hstart
  have hform : Config.isJsonPath path = true ∨ config.OneLineValues := by
    cases hjson : Config.isJsonPath path with
    | true => exact .inl rfl
    | false =>
        rw [hcompleted]
        exact .inr (Config.oneLineValues_completed (Config.oneLineValues_of_load hjson hload))
  have hagain : startup saved path = .ok config := by
    apply startup_eq_ok_iff.mpr
    refine ⟨config, Config.load_save hform hsave, ?_, hvalid⟩
    rw [hcompleted, Config.completed_completed]
  have hread := (Config.readText_save hsave).2
  refine ⟨hagain, hread, ?_⟩
  obtain ⟨again, hnext⟩ := Config.save_again hsave config
  refine ⟨again, hnext, ?_⟩
  rw [(Config.readText_save hnext).2, hread]

namespace Small

/-- A file with a remark, blanks around a value and marks inside one; all else is filled in. -/
def netboot : String := "# boot network\nnetwork_address = 10.0.0.1 \ndhcp_opt_dns_domain=a=b # c"

def confDisk : Disk where
  entries := ⟨[(["etc"], .directory), (["etc", "netboot.conf"], .file 0)]⟩
  contents := ⟨[(0, Text.Utf8.encode netboot)]⟩
  nextFile := 1
  workingDirectory := ["etc"]

def running : Config :=
  { address := .ofOctets 10 0 0 1
    dhcp :=
      { subnetMask := .ofOctets 255 255 255 0, poolBase := .ofOctets 10 0 0 0, poolOffset := 20,
        poolLength := 20, domain := "a=b # c" } }

end Small

theorem small_startup_of_saved :
    ∃ saved, startup Small.confDisk "netboot.conf" = .ok Small.running ∧
      Small.running.save Small.confDisk "netboot.conf" = (saved, .ok ()) ∧
      startup saved "netboot.conf" = .ok Small.running ∧
      saved.readText "netboot.conf" = .ok (Small.running.serialized "netboot.conf") ∧
      ∃ again, Small.running.save saved "netboot.conf" = (again, .ok ()) ∧
        again.readText "netboot.conf" = saved.readText "netboot.conf" := by
  have hstart : startup Small.confDisk "netboot.conf" = .ok Small.running :=
    eq_ok_of_toOption (by decide +kernel)
  have hsaved : (Small.running.save Small.confDisk "netboot.conf").2 = .ok () :=
    eq_ok_of_toOption (by decide +kernel)
  generalize hsave : Small.running.save Small.confDisk "netboot.conf" = result at hsaved
  obtain ⟨saved, outcome⟩ := result
  obtain rfl : outcome = .ok () := hsaved
  exact ⟨saved, hstart, rfl, startup_of_saved hstart hsave⟩

end Operator

end BootServer
