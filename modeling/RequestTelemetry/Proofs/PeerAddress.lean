import RequestTelemetry.Proofs.AddressText
import RequestTelemetry.Proofs.ClientAddress

/-!
# Clients known by their peer address

Without a forwarding header the address of a client is that of the peer, as the text of its IP
address. The text is read back as the address, so two clients have the same text exactly if their
peers have the same IP address: neither the port nor the scope and the flow label of an IPv6 peer
tell clients apart, and no two addresses are taken for one another.
-/

namespace RequestTelemetry.Tracking

open Http Net

/-- Without a forwarding header the client's address is the text of the peer's. -/
theorem clientIp_of_peer {r : Request} {a : SocketAddr} (hforwarded : r.forwarded? = none)
    (hpeer : r.peer = some a) : clientIp r = a.ip.text := by
  rw [clientIp_eq, hforwarded, hpeer]
  rfl

/-- **The address of a peer is a canonical IP address without a port.** For every request without
a forwarding header and with a peer: the address of the client is a text that is read as exactly the
peer's IP address, and not as an address with a port; there are no brackets in it; and any other
such request has the same text exactly if its peer has the same IP address. -/
theorem peer_address_is_canonical (r : Request) (a : SocketAddr) (hforwarded : r.forwarded? = none)
    (hpeer : r.peer = some a) :
    Ip.ofText? (clientIp r) = some a.ip ∧
      SocketAddr.ofText? (clientIp r) = none ∧
      (∀ c ∈ (clientIp r).toList, c ≠ '[' ∧ c ≠ ']') ∧
      ∀ (r' : Request) (a' : SocketAddr), r'.forwarded? = none → r'.peer = some a' →
        (clientIp r' = clientIp r ↔ a'.ip = a.ip) := by
  have htext := clientIp_of_peer hforwarded hpeer
  refine ⟨?_, ?_, ?_, ?_⟩
  · rw [htext, Ip.ofText?_text]
  · rw [htext, Ip.socketAddr_ofText?_text]
  · intro c hc
    rw [htext, Ip.text, String.toList_ofList] at hc
    have hchar := Ip.isTextChar_of_mem hc
    constructor
    · rintro rfl
      exact absurd hchar (by decide)
    · rintro rfl
      exact absurd hchar (by decide)
  · intro r' a' hforwarded' hpeer'
    rw [htext, clientIp_of_peer hforwarded' hpeer']
    refine ⟨fun h ↦ ?_, congrArg Ip.text⟩
    -- equal texts are read as one address
    have hread := congrArg Ip.ofText? h
    rw [Ip.ofText?_text, Ip.ofText?_text] at hread
    exact Option.some.inj hread

/-- An IPv6 peer with two runs of zero groups, under two ports and scopes, and the peer whose IPv4
address the last groups of a mapped address are. -/
theorem three_peers_two_clients :
    let ip : V6 := { groups := [0x2001, 0xDB8, 0, 0, 1, 0, 0, 1] }
    let mapped : V6 := { groups := [0, 0, 0, 0, 0, 0xFFFF, 0x0102, 0x0304] }
    let r : Request :=
      { peer := some (.v6 ip 443 0 1), headers := ⟨[(.forwardedFor, []), (.realIp, [])]⟩ }
    let r' : Request := { peer := some (.v6 ip 80 7 0) }
    let r'' : Request := { peer := some (.v6 mapped 80 0 0) }
    clientIp r = "2001:db8::1:0:0:1" ∧
      Ip.ofText? "2001:db8::1:0:0:1" = some (.v6 ip) ∧
      clientIp r' = clientIp r ∧
      clientIp r'' ≠ clientIp { peer := some (.v4 ⟨1, 2, 3, 4⟩ 80) } := by
  intro ip mapped r r' r''
  have hr : clientIp r = "2001:db8::1:0:0:1" := by decide
  obtain ⟨hread, -, -, hother⟩ :=
    peer_address_is_canonical r (.v6 ip 443 0 1) (by decide) rfl
  obtain ⟨-, -, -, hplain⟩ := peer_address_is_canonical
    { peer := some (.v4 ⟨1, 2, 3, 4⟩ 80) } (.v4 ⟨1, 2, 3, 4⟩ 80) (by decide) rfl
  refine ⟨hr, hr ▸ hread, (hother r' (.v6 ip 80 7 0) (by decide) rfl).mpr rfl, fun h ↦ ?_⟩
  exact absurd ((hplain r'' (.v6 mapped 80 0 0) (by decide) rfl).mp h) (by decide)

end RequestTelemetry.Tracking
