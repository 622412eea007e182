import ServiceDiscovery.Proofs.Multicast.Following

/-!
# What is reported is delivered

Once every report was worked off and read, and no resolution is under way, the events
that a subscription announced add up to the names that were resolved and not removed
since, each at the address that was reported last (`Reception.Received.live_iff`).
-/

namespace ServiceDiscovery

namespace Reception

variable {settings : BrowserSettings} {length : Nat} {typeDomain interface : String}
  {r : Reception} {fed : List SearchEvent} {told : List PeerEvent}

theorem Received.followed (h : Received settings length typeDomain interface r fed told)
    (ht : HasTransport typeDomain) (habout : ∀ event ∈ fed, event.IsAbout typeDomain) :
    ∃ unread, Followed typeDomain interface fed unread r := by
  induction h with
  | first => exact ⟨_, .start ht (.start typeDomain interface) rfl (List.mem_singleton_self _)
      Nat.zero_lt_one rfl⟩
  | @attached f browse stream fed hfed hattach =>
    have hopen : f.browse.closed = false := by
      rw [SharedBrowse.attach?] at hattach
      split at hattach
      · cases hattach
      · rename_i hclosed
        exact eq_false_of_ne_true hclosed
    have hexit : f.relay.exit = none := Decidable.of_not_not fun hexit => by
      rw [(hfed.closed hexit).1] at hopen
      cases hopen
    have hact : f.act? .attach = some { f with browse } := by
      rw [Feed.act?, hattach]
      rfl
    have hcurrent : Feed.Current typeDomain interface (fed ++ []) { f with browse } :=
      (hfed.current habout hexit).act hact hexit fun _ he => absurd he List.not_mem_nil
    rw [List.append_nil] at hcurrent
    rw [SharedBrowse.attach?, hopen] at hattach
    obtain ⟨rfl, rfl⟩ := Prod.mk.inj (Option.some.inj hattach)
    exact ⟨_, .start ht hcurrent hexit (List.mem_append_right _ (List.mem_singleton_self _))
      (Nat.lt_succ_self _) (Association.get?_put_self ..)⟩
  | step hreceived hact ih =>
    obtain ⟨unread, h⟩ := ih fun e he => habout e (List.mem_append_left _ he)
    exact h.acts ht hreceived.run (acts_of_act? hact)
      fun e he => habout e (List.mem_append_right _ he)

/-- What a subscription that receives has told, once every report was worked off and read
    and no resolution is under way: the names that were resolved and not removed since are
    live, and no other, each at the address in the advert that was reported last. -/
theorem Received.live_iff (h : Received settings length typeDomain interface r fed told)
    (ht : HasTransport typeDomain) (habout : ∀ event ∈ fed, event.IsAbout typeDomain)
    (hsettled : r.Settled) :
    ∃ live, LivePeers.ofEvents? told = some live ∧
      ∀ key peer, live.get? key = some peer ↔
        ∃ name advert, IsInstance typeDomain name ∧ key = .ofFullName name typeDomain interface ∧
          SearchEvent.lastAdvert? name fed = some advert ∧
          advert.endpoint?.map (Peer.located key) = some peer := by
  obtain ⟨unread, hfollowed⟩ := h.followed ht habout
  obtain rfl : unread = [] := hsettled.read hfollowed.stream
  obtain ⟨live, hlive, hpeers⟩ := h.run.livePeers
  have hdue : r.feed.due = [] := by rw [Feed.due, hsettled.chore]; rfl
  have hlookUp (name : String) :
      r.feed.book.lookUp name = (SearchEvent.lastAdvert? name fed).bind Advert.endpoint? := by
    rw [AddressBook.lookUp, ← hfollowed.current.last, hsettled.reports, List.foldl_nil]
  have hpeer {key : PeerKey} (hkey : key.IsOf typeDomain interface) :
      r.subscription.peer? key = (r.feed.book.lookUp key.fullName).map (Peer.located key) := by
    have htracks := hfollowed.tracks hkey
    rw [hdue] at htracks
    refine htracks.peer? (Option.eq_none_iff_forall_ne_some.2 fun ticket hwaits => ?_)
    obtain ⟨q, hq, -⟩ := (hfollowed.ticketed h.run).running hwaits
    cases (hsettled.resolved ticket).symm.trans hq
  refine ⟨live, hlive, fun key peer => ?_⟩
  rw [hpeers]
  constructor
  · intro hlives
    have hkey : key.IsOf typeDomain interface := by
      obtain ⟨slot, hslot, -⟩ := Option.bind_eq_some_iff.1 hlives
      exact hfollowed.slots hslot
    rw [hpeer hkey, hlookUp] at hlives
    obtain ⟨name, hname, rfl⟩ := hkey
    rw [PeerKey.fullName_ofFullName ht hname, Option.map_bind] at hlives
    obtain ⟨advert, hadvert, hlives⟩ := Option.bind_eq_some_iff.1 hlives
    exact ⟨name, advert, hname, rfl, hadvert, hlives⟩
  · rintro ⟨name, advert, hname, rfl, hadvert, hlives⟩
    rw [hpeer ⟨name, hname, rfl⟩, hlookUp, PeerKey.fullName_ofFullName ht hname, hadvert]
    exact hlives

/-- A name is resolved just as the last attempt to find its address runs out of time, and
    moves while its second appearance is coalesced. -/
theorem Received.live_iff_late :
    let type := "_p._tcp.local."
    let name := "a._p._tcp.local."
    let advert (last : UInt8) : Advert :=
      { fullName := name, type, subtype := none, port := 9000, addresses := [.v4 ⟨10, 0, 0, last⟩] }
    let first : Reception :=
      { feed := { browse := (SharedBrowse.start type "eth0").1 }
        stream := (SharedBrowse.start type "eth0").2
        subscription := .start { resolveAttempts := 1 } type }
    let work : ReceptionAction := .feed .work
    let fed : List SearchEvent := [.found name, .resolved (advert 1), .resolved (advert 2)]
    let actions : List ReceptionAction :=
      [.feed (.report (.found name)), work, work, .read, .ask 0, .look 0, .wait 5,
        .feed (.report (.resolved (advert 1))), work, .look 0, work, work, .read, .ask 1,
        .feed (.report (.resolved (advert 2))), work, work, work, .read, .look 1]
    let told : List PeerEvent :=
      [.added (.located (.ofFullName name type "eth0") (.v4 ⟨10, 0, 0, 2⟩ 9000))]
    ∃ r, first.actAll? 5 actions = some (r, told) ∧ r.Settled ∧
      ∃ live, LivePeers.ofEvents? told = some live ∧
        ∀ key peer, live.get? key = some peer ↔
          ∃ name advert, IsInstance type name ∧ key = .ofFullName name type "eth0" ∧
            SearchEvent.lastAdvert? name fed = some advert ∧
            advert.endpoint?.map (Peer.located key) = some peer := by
  intro type name advert first work fed actions told
  have hrun : (first.actAll? 5 actions).any fun after =>
      after.1.feed.relay.reports = [] ∧ after.1.feed.chore = none ∧
        after.1.feed.browse.streams.get? after.1.stream = some {} ∧
        after.1.subscription.resolutions.bindings.isEmpty ∧ after.2 = told := by
    decide +kernel
  obtain ⟨⟨r, out⟩, hr, hfacts⟩ := (Option.any_eq_true ..).1 hrun
  obtain ⟨hreports, hchore, hread, hresolved, rfl⟩ := of_decide_eq_true hfacts
  have hsettled : r.Settled := {
    reports := hreports
    chore := hchore
    read := fun hs => by
      obtain rfl := Option.some.inj (hread.symm.trans hs)
      rfl
    resolved := fun ticket => by
      rw [Association.get?, List.isEmpty_iff.1 hresolved]
      rfl }
  have hinstance : IsInstance type name := ⟨"a", by decide +kernel, by decide +kernel⟩
  have habout : ∀ event ∈ fed, event.IsAbout type := by
    intro event he
    rcases List.mem_cons.1 he with rfl | he
    · exact hinstance
    · rcases List.mem_cons.1 he with rfl | he
      · exact ⟨hinstance, List.cons_ne_nil _ _⟩
      · obtain rfl := List.mem_singleton.1 he
        exact ⟨hinstance, List.cons_ne_nil _ _⟩
  have htransport : HasTransport type := ⟨"._tcp.", by decide +kernel, by decide +kernel⟩
  exact ⟨r, hr, hsettled, (Received.first.actAll hr).live_iff htransport habout hsettled⟩

end Reception

end ServiceDiscovery
