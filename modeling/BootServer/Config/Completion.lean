import BootServer.Config.Reading

/-!
# Completing and checking a configuration

Settings that the operator left blank get values before a server starts, each of them announced;
`validate` says whether a server can run.
-/

namespace BootServer.Config

/-- The settings that can be left blank, in the order in which they are filled in. -/
def fillable : List Key :=
  [.dhcpSubnetMask, .dhcpPoolBase, .dhcpPoolOffset, .dhcpPoolLength, .tftpRoot]

/-- Is a fillable setting blank? -/
def lacks (config : Config) : Key → Bool
  | .dhcpSubnetMask => config.dhcp.subnetMask.isUnspecified
  | .dhcpPoolBase => config.dhcp.poolBase.isUnspecified
  | .dhcpPoolOffset => config.dhcp.poolOffset == 0
  | .dhcpPoolLength => config.dhcp.poolLength == 0
  | .tftpRoot => config.tftp.root.isEmpty
  | _ => false

/-- The configuration with its blanks filled in: a class C mask, the pool on the server's own
network, twenty addresses from the twentieth on, and the usual directory. -/
def completed (config : Config) : Config :=
  let mask :=
    if config.lacks .dhcpSubnetMask then IPv4.ofOctets 255 255 255 0 else config.dhcp.subnetMask
  { config with
    dhcp := { config.dhcp with
      subnetMask := mask
      poolBase :=
        if config.lacks .dhcpPoolBase then config.address.masked mask else config.dhcp.poolBase
      poolOffset := if config.lacks .dhcpPoolOffset then 20 else config.dhcp.poolOffset
      poolLength := if config.lacks .dhcpPoolLength then 20 else config.dhcp.poolLength }
    tftp := { config.tftp with
      root := if config.lacks .tftpRoot then "/tftp" else config.tftp.root } }

/-- The announcement of every value filled in. -/
def completionLog (config : Config) : Log :=
  (fillable.filter config.lacks).flatMap fun key =>
    Log.info ("autoconfigure: " ++ key.name ++ " = " ++ config.completed.text key)

/-- The keys on which two configurations differ. -/
def differences (before after : Config) : List Key :=
  Key.all.filter fun key => before.get key ≠ after.get key

/-- Can a server run on the configuration? -/
def validate (config : Config) : Except ConfigError Unit :=
  if !config.dhcp.enabled && !config.tftp.enabled then .error (.invalid .noService)
  else if config.address.isUnspecified then .error (.invalid .noAddress)
  else if config.tftp.enabled && config.tftp.root.isEmpty then .error (.invalid .noRoot)
  else .ok ()

end BootServer.Config
