import ServiceDiscovery.Address.Ip

/-!
# The order of addresses

Addresses are ordered as numbers, IPv4 before IPv6, and a number stands for one address
only: `IpAddress.le` is a linear order (`le_total`, `le_trans`, `le_antisymm`). So a list of
addresses that is not empty has a least one, which `IpAddress.least?` finds
(`least?_spec`). If the list has an IPv4 address at all, this is one
(`exists_v4_of_le`).
-/

namespace ServiceDiscovery

theorem Ipv4.toNat_inj {x y : Ipv4} (h : x.toNat = y.toNat) : x = y := by
  obtain ⟨a, b, c, d⟩ := x
  obtain ⟨a', b', c', d'⟩ := y
  have hb := b.toNat_lt
  have hb' := b'.toNat_lt
  have hc := c.toNat_lt
  have hc' := c'.toNat_lt
  have hd := d.toNat_lt
  have hd' := d'.toNat_lt
  dsimp only [toNat] at h
  rw [mk.injEq, ← UInt8.toNat_inj, ← UInt8.toNat_inj, ← UInt8.toNat_inj, ← UInt8.toNat_inj]
  omega

namespace Ipv6

/-- Groups that come to the same number after as many groups are the same. -/
theorem groups_inj {gs gs' : List UInt16} {n n' : Nat} (hlength : gs.length = gs'.length)
    (h : gs.foldl (fun n g => n * 65536 + g.toNat) n =
      gs'.foldl (fun n g => n * 65536 + g.toNat) n') : n = n' ∧ gs = gs' := by
  induction gs generalizing gs' n n' with
  | nil =>
    obtain rfl := List.length_eq_zero_iff.1 hlength.symm
    exact ⟨h, rfl⟩
  | cons g gs ih =>
    obtain ⟨g', gs', rfl⟩ := List.exists_cons_of_length_eq_add_one hlength.symm
    obtain ⟨hn, rfl⟩ := ih (Nat.succ.inj hlength) h
    dsimp only at hn
    have hg := g.toNat_lt
    have hg' := g'.toNat_lt
    obtain rfl : g = g' := UInt16.toNat_inj.1 (by omega)
    exact ⟨by omega, rfl⟩

theorem toNat_inj {x y : Ipv6} (h : x.toNat = y.toNat) : x = y := by
  obtain ⟨gs, hgs⟩ := x
  obtain ⟨gs', hgs'⟩ := y
  obtain ⟨-, rfl⟩ := groups_inj (hgs.trans hgs'.symm) h
  rfl

end Ipv6

namespace IpAddress

variable {x y z : IpAddress}

theorem le_total (x y : IpAddress) : x.le y = true ∨ y.le x = true := by
  cases x <;> cases y <;> simp [le, Nat.le_total]

theorem le_refl (x : IpAddress) : x.le x = true := (le_total x x).elim id id

theorem le_trans (hxy : x.le y = true) (hyz : y.le z = true) : x.le z = true := by
  cases x <;> cases y <;> cases z <;> simp only [le, decide_eq_true_eq, reduceCtorEq] at * <;> omega

theorem le_antisymm (hxy : x.le y = true) (hyx : y.le x = true) : x = y := by
  cases x <;> cases y <;> simp only [le, decide_eq_true_eq, reduceCtorEq] at hxy hyx
  · exact congrArg v4 (Ipv4.toNat_inj (Nat.le_antisymm hxy hyx))
  · exact congrArg v6 (Ipv6.toNat_inj (Nat.le_antisymm hxy hyx))

/-- No IPv6 address comes before an IPv4 one. -/
theorem exists_v4_of_le {ip : Ipv4} (h : x.le (.v4 ip) = true) : ∃ ip', x = .v4 ip' := by
  cases x with
  | v4 ip' => exact ⟨ip', rfl⟩
  | v6 ip' => cases h

/-! ## The least of a list -/

theorem least?_eq_none_iff {ips : List IpAddress} : least? ips = none ↔ ips = [] := by
  cases ips with
  | nil => exact iff_of_true rfl rfl
  | cons ip ips =>
    rw [least?]
    cases least? ips <;> exact iff_of_false nofun nofun

/-- What is found is in the list, and comes before all others. -/
theorem least?_spec {ips : List IpAddress} (h : least? ips = some x) :
    x ∈ ips ∧ ∀ ip ∈ ips, x.le ip = true := by
  induction ips generalizing x with
  | nil => cases h
  | cons ip ips ih =>
    rw [least?] at h
    split at h
    · rename_i hnone
      obtain rfl := least?_eq_none_iff.1 hnone
      obtain rfl := Option.some.inj h
      exact ⟨List.mem_singleton_self _, fun ip hip => List.mem_singleton.1 hip ▸ le_refl _⟩
    · rename_i y hy
      obtain ⟨hmem, hleast⟩ := ih hy
      obtain rfl := Option.some.inj h
      split
      · rename_i hle
        refine ⟨List.mem_cons_self, fun z hz => ?_⟩
        rcases List.mem_cons.1 hz with rfl | hz
        · exact le_refl _
        · exact le_trans hle (hleast z hz)
      · rename_i hle
        refine ⟨List.mem_cons_of_mem _ hmem, fun z hz => ?_⟩
        rcases List.mem_cons.1 hz with rfl | hz
        · exact (le_total _ y).resolve_left hle
        · exact hleast z hz

end IpAddress

end ServiceDiscovery
