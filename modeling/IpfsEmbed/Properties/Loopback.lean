import IpfsEmbed.Properties.SetInfo

/-!
# The loopback filter

With `enable_loopback` off, `add_address` and `set_info` skip every address for which
`MultiaddrExt::is_loopback` holds.  That function looks only for a leading `/ip4` component:
an `/ip4` address counts as loopback exactly when its IP is in `127.0.0.0/8`, but every other
address (`/ip6`, `/dns`, an empty address) counts as loopback whatever it names.  So the filter
is exact on `/ip4` addresses, never lets a loopback IP through, and drops every non-`/ip4`
address, among them global IPv6 addresses.

`startsWithLoopbackIp` states the intended notion (`/ip4/127.0.0.0/8` or `/ip6/::1`); the
lemmas below compare the two and follow the difference through `add_address`.
-/

namespace IpfsEmbed

namespace Multiaddr

variable {a : Multiaddr}

end Multiaddr

namespace AddressBook

open PeerInfo

variable (b : AddressBook) (now : DateTime) (peer : PeerId) (source : AddressSource)

/-- A global IPv6 address is not loopback, but with `enable_loopback` off `add_address` does
not record it. -/
theorem addAddress_drops_global_ip6 :
    Multiaddr.startsWithLoopbackIp ⟨[.ip6 ⟨0x20010db8000000000000000000000001⟩, .tcp 4001]⟩ =
        false ∧
      ((AddressBook.new ⟨0⟩ false false false).addAddress 0 ⟨1⟩
        ⟨[.ip6 ⟨0x20010db8000000000000000000000001⟩, .tcp 4001]⟩ .dial).peers.lookup ⟨1⟩ = none :=
  ⟨by decide, by decide⟩

end AddressBook

end IpfsEmbed
