import ClusterHealth.Proofs.SocketAddress

/-! Whether transfers can connect to the targets of an endpoint. Targets are written without
brackets, so that only addresses of four numbers are read back. -/
namespace ClusterHealth
namespace Endpoint

/-- A target is one of the usable addresses with the first port. -/
theorem mem_targets_iff (e : Endpoint) (label remote : String) :
    (label, remote) ∈ e.targets ↔
      ∃ address, (label = "cluster" ∧ e.cluster? = some address ∨
        label = "external" ∧ e.external? = some address) ∧ remote = e.remote address := by
  simp only [targets, List.mem_append, Option.mem_toList, Option.map_eq_some_iff, Prod.mk.injEq]
  constructor
  · rintro (⟨address, h, rfl, rfl⟩ | ⟨address, h, rfl, rfl⟩)
    · exact ⟨address, .inl ⟨rfl, h⟩, rfl⟩
    · exact ⟨address, .inr ⟨rfl, h⟩, rfl⟩
  · rintro ⟨address, ⟨rfl, h⟩ | ⟨rfl, h⟩, rfl⟩
    · exact .inl ⟨address, h, rfl, rfl⟩
    · exact .inr ⟨address, h, rfl, rfl⟩

theorem remote_eq {e : Endpoint} {port : UInt16} (h : (port.toNat : Int) = e.port)
    (address : String) : e.remote address = address ++ ":" ++ port.toNat.repr := by
  rw [remote, ← h]
  rfl

end Endpoint

namespace Transfer.Curl

/-- Targets at addresses of four numbers are read as that address and the port, and transfers
connect to the very text of the target. Those at addresses of eight groups are turned down, while
the same address in brackets would be read as itself. -/
theorem connect_of_mem_targets (e : Endpoint) (hport : 0 < e.port) (hbound : e.port ≤ 65535)
    (haddresses : ∀ address, e.cluster? = some address ∨ e.external? = some address →
      (IpAddress.parse? address).isSome) {label remote : String}
    (h : (label, remote) ∈ e.targets) :
    ∃ address ip, ∃ port : UInt16,
      (label = "cluster" ∧ e.cluster? = some address ∨
        label = "external" ∧ e.external? = some address) ∧
      IpAddress.parse? address = some ip ∧ (port.toNat : Int) = e.port ∧
      remote = address ++ ":" ++ port.toNat.repr ∧
      match ip with
      | .v4 a b c d =>
        SocketAddress.parse? remote = some (.v4 a b c d port) ∧ connect remote = .ok ⟨remote⟩
      | .v6 groups =>
        connect remote = .error
          (.connect remote "not an address:port pair (invalid socket address syntax)") ∧
        SocketAddress.parse? ("[" ++ address ++ "]:" ++ port.toNat.repr) =
          some (.v6 groups 0 port) := by
  obtain ⟨address, hsource, rfl⟩ := (e.mem_targets_iff label remote).1 h
  obtain ⟨ip, hip⟩ := Option.isSome_iff_exists.1 <|
    haddresses address (hsource.imp And.right And.right)
  obtain ⟨n, hn⟩ := Int.eq_ofNat_of_zero_le (Int.le_of_lt hport)
  have hle : n ≤ 65535 := by omega
  have hvalue : (UInt16.ofNat n).toNat = n := UInt16.toNat_ofNat_of_lt' (by
    change n < 65536
    omega)
  have hsame : ((UInt16.ofNat n).toNat : Int) = e.port := by rw [hvalue, hn]
  refine ⟨address, ip, .ofNat n, hsource, hip, hsame, Endpoint.remote_eq hsame address, ?_⟩
  rw [Endpoint.remote_eq hsame address, hvalue]
  cases ip with
  | v4 a b c d =>
    have hparse := SocketAddress.parse?_v4 hip hle
    have htext := SocketAddress.text_v4 hip (.ofNat n)
    refine ⟨hparse, ?_⟩
    rw [connect, hparse]
    dsimp only
    rw [htext, hvalue]
  | v6 groups =>
    refine ⟨?_, SocketAddress.parse?_bracketed hip hle⟩
    rw [connect, SocketAddress.parse?_v6 hip]

/-- A service with an address of each kind. -/
def dualStack : Endpoint := ⟨some "10.0.0.1", some "fd00::10.0.0.1", 69, []⟩

theorem dualStack_addresses (address : String)
    (h : dualStack.cluster? = some address ∨ dualStack.external? = some address) :
    (IpAddress.parse? address).isSome := by
  rcases h with h | h
  · obtain rfl := Option.some.inj h
    decide +kernel
  · obtain rfl := Option.some.inj h
    decide +kernel

theorem connect_of_mem_targets_dualStack :
    (0 < dualStack.port ∧ dualStack.port ≤ 65535 ∧
      ∀ address, dualStack.cluster? = some address ∨ dualStack.external? = some address →
        (IpAddress.parse? address).isSome) ∧
    dualStack.targets = [("cluster", "10.0.0.1:69"), ("external", "fd00::10.0.0.1:69")] ∧
    connect "10.0.0.1:69" = .ok ⟨"10.0.0.1:69"⟩ ∧
    connect "fd00::10.0.0.1:69" = .error (.connect "fd00::10.0.0.1:69"
      "not an address:port pair (invalid socket address syntax)") := by
  have hport : 0 < dualStack.port ∧ dualStack.port ≤ 65535 := by decide
  have hcluster : ("cluster", "10.0.0.1:69") ∈ dualStack.targets := by decide
  have hexternal : ("external", "fd00::10.0.0.1:69") ∈ dualStack.targets := by decide
  refine ⟨⟨hport.1, hport.2, dualStack_addresses⟩, by decide, ?_, ?_⟩
  · obtain ⟨address, ip, port, hsource, hip, -, -, hconnect⟩ :=
      connect_of_mem_targets dualStack hport.1 hport.2 dualStack_addresses hcluster
    rcases hsource with ⟨-, haddress⟩ | ⟨hlabel, -⟩
    · obtain rfl := Option.some.inj haddress
      obtain rfl : IpAddress.v4 10 0 0 1 = ip :=
        Option.some.inj ((by decide +kernel : _ = _).trans hip)
      exact hconnect.2
    · exact absurd hlabel (by decide)
  · obtain ⟨address, ip, port, hsource, hip, -, -, hconnect⟩ :=
      connect_of_mem_targets dualStack hport.1 hport.2 dualStack_addresses hexternal
    rcases hsource with ⟨hlabel, -⟩ | ⟨-, haddress⟩
    · exact absurd hlabel (by decide)
    · obtain rfl := Option.some.inj haddress
      obtain rfl : IpAddress.v6 [0xfd00, 0, 0, 0, 0, 0, 0x0a00, 1] = ip :=
        Option.some.inj ((by decide +kernel : _ = _).trans hip)
      exact hconnect.1

/-- Not every target can be connected to. -/
theorem exists_refused_target :
    ¬∀ e : Endpoint, 0 < e.port → e.port ≤ 65535 →
      (∀ address, e.cluster? = some address ∨ e.external? = some address →
        (IpAddress.parse? address).isSome) →
      ∀ target ∈ e.targets, ∃ session, connect target.2 = .ok session := by
  intro h
  have haddresses (address : String)
      (h : Endpoint.cluster? ⟨some "::1", none, 69, []⟩ = some address ∨
        Endpoint.external? ⟨some "::1", none, 69, []⟩ = some address) :
      (IpAddress.parse? address).isSome := by
    rcases h with h | h
    · obtain rfl := Option.some.inj h
      decide +kernel
    · cases h
  obtain ⟨session, hconnect⟩ := h ⟨some "::1", none, 69, []⟩ (by decide) (by decide) haddresses
    ("cluster", "::1:69") (by decide)
  have hrefused : SocketAddress.parse? "::1:69" = none := by decide +kernel
  rw [connect, hrefused] at hconnect
  cases hconnect

end Transfer.Curl
end ClusterHealth
