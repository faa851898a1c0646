import WiredTethering.Common.Text
import WiredTethering.Dhcp.Client

/-!
# The reported lease

`at_dhcp_lease` turns the addresses of an active lease into the texts of
`at_net_info_t`, which is what the engine applies to the interface.
-/

namespace WiredTethering.Dhcp

open WiredTethering.Memory
open WiredTethering.Common

/-- `at_net_info_t`. -/
structure AtNetInfo where
  ip : Bytes
  netmask : Bytes
  gateway : Bytes
  dns : Bytes
  ready : Bool
deriving DecidableEq, Repr

/-- `memset` of an `at_net_info_t`. -/
def AtNetInfo.empty : AtNetInfo :=
  ⟨[], [], [], [], false⟩

/-- The DNS text; the array has 128 bytes. -/
def leaseDns (d : AtDhcp) : Bytes :=
  if d.dnsN = 0 then []
  else
    let dns := ip4Str d.dns0
    if d.dnsN < 2 then dns
    else
      let second := ip4Str d.dns1
      if dns.length + 1 + second.length < 128 then dns ++ cstr " " ++ second else dns

/-- `at_dhcp_lease`. -/
def atDhcpLease (d : AtDhcp) : AtNetInfo :=
  if !leaseActive d then .empty
  else
    { ip := ip4Str d.yiaddr
      netmask := ip4Str d.netmask
      gateway := if d.router ≠ 0 then ip4Str d.router else []
      dns := leaseDns d
      ready := true }

end WiredTethering.Dhcp
