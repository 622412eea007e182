import ServiceDiscovery.Multicast.Advert
import ServiceDiscovery.Proofs.Multicast.Names
import ServiceDiscovery.Proofs.View.Copying

/-!
# The node's own instance

A node sees its own advert under a key that is read off the advert's full name, and its
follower passes over events about keys of its own name. The name that is read is that of
the record unless it ends in a dot, since all dots before the type are trimmed, or the
type has a subtype mark, since the full name has only what follows the mark
(`Advert.name_ofFullName_iff`). So a record with such a name or type, which nothing keeps
from being published, is listed by its own node like any other
(`World.own_unlisted_iff`, `World.own_listed`).
-/

namespace ServiceDiscovery

namespace Advert

theorem eq_append_of_afterSubtypeMark? {cs rest : List Char}
    (h : afterSubtypeMark? cs = some rest) :
    ∃ before, cs = before ++ subtypeMark ++ rest := by
  induction cs generalizing rest with
  | nil => cases h
  | cons c cs ih =>
    rw [afterSubtypeMark?] at h
    split at h
    · rename_i rest' hrest
      obtain rfl := Option.some.inj h
      obtain ⟨before, hbefore⟩ := ih hrest
      exact ⟨c :: before, congrArg (c :: ·) hbefore⟩
    · split at h
      · rename_i hprefix
        obtain ⟨rest', hrest⟩ := List.isPrefixOf_iff_prefix.1 hprefix
        refine ⟨[], ?_⟩
        rw [← Option.some.inj h, ← hrest, List.drop_left, List.nil_append]
      · cases h

/-- The full name of a node's own advert. -/
theorem fullName_of_ofRecord {record : ServiceRecord} {settings : MulticastSettings}
    {advert : Advert} (h : ofRecord record settings = .ok advert) :
    advert.fullName = record.instanceName ++ "." ++ (splitSubtype record.serviceType).1 := by
  rw [ofRecord] at h
  split at h
  · cases h
  · rename_i made hmade
    obtain rfl := Except.ok.inj h
    rw [make] at hmade
    dsimp only at hmade
    split at hmade
    · cases hmade
    · split at hmade
      · cases hmade
      · obtain rfl := Except.ok.inj hmade
        rfl

/-- A record without properties is published with the addresses of the interfaces. -/
theorem exists_ofRecord {record : ServiceRecord} (h : record.metadata = .empty) :
    ∃ advert, ofRecord record {} = .ok advert := by
  have haddresses : addresses? "" = some [] := rfl
  rw [ofRecord, h]
  dsimp only [Option.getD_none]
  rw [make, haddresses]
  exact ⟨_, rfl⟩

/-- The name read off the full name of an instance is the instance's own, unless that ends in
    a dot or the type has a subtype mark. -/
theorem name_ofFullName_iff (instanceName serviceType interface : String) :
    (PeerKey.ofFullName (instanceName ++ "." ++ (splitSubtype serviceType).1) serviceType
        interface).name = instanceName ↔
      (splitSubtype serviceType).2 = none ∧ instanceName.toList.getLast? ≠ some '.' := by
  rw [← String.toList_inj, PeerKey.toList_name_ofFullName, String.toList_append,
    String.toList_append]
  have hdot : ".".toList = ['.'] := rfl
  rw [splitSubtype, hdot]
  cases hmark : afterSubtypeMark? serviceType.toList with
  | none =>
    have hending : dropEnding? serviceType.toList
        (instanceName.toList ++ ['.'] ++ serviceType.toList) =
          some (instanceName.toList ++ ['.']) :=
      dropEnding?_eq_some_iff.2 rfl
    dsimp only
    rw [hending]
    dsimp only
    rw [trimDots_concat, trimDots_eq_self_iff, and_iff_right rfl]
  | some rest =>
    -- Whether the type is found at the end or not, the name has another length.
    obtain ⟨before, hbefore⟩ := eq_append_of_afterSubtypeMark? hmark
    refine iff_of_false (fun he => ?_) nofun
    replace he := congrArg List.length he
    dsimp only at he
    rw [String.toList_ofList] at he
    split at he
    · rename_i cs hcs
      rw [dropEnding?_eq_some_iff, hbefore] at hcs
      have hlength := congrArg List.length hcs
      have htrimmed := length_trimDots_le cs
      have hmark : subtypeMark.length = 6 := rfl
      simp only [List.length_append, List.length_singleton, hmark] at hlength
      omega
    · simp only [List.length_append, List.length_singleton] at he
      omega

end Advert

namespace World

variable {settings : BrowserSettings} {multicast : MulticastSettings} {record : ServiceRecord}
  {advert : Advert} {id : Nat} {w : World} {events : List PeerEvent}

/-- The view never lists a peer of the node's own name. -/
theorem Copying.get?_own {serviceType own : String}
    (h : Copying settings serviceType own id w events) {key : PeerKey} (hname : key.name = own) :
    w.view.table.entries.get? key = none := by
  obtain ⟨handled, waiting, live, -, -, hshows, -⟩ := h.copied.copies.copied
  have hkey := hshows key
  rw [if_pos hname] at hkey
  exact Option.map_eq_none_iff.1 hkey

/-- Some subscription announces a peer of any key. -/
theorem exists_run_added (settings : BrowserSettings) (serviceType : String) (key : PeerKey)
    (endpoint : Endpoint) :
    ∃ s, Subscription.Run settings serviceType s [.added (.located key endpoint)] := by
  let s := (Subscription.start settings serviceType).onAppeared key
  have happear : (Subscription.start settings serviceType).step? 0 (.event (.appeared key)) =
      some (s, []) := rfl
  let after := s.conclude 0 key (some endpoint)
  have hanswer : s.step? 0 (.answered 0 (some endpoint)) = some (after.1, after.2) := rfl
  have hslot : (s.endResolution 0).slots.get? key = some (.pending 0) :=
    Association.get?_put_self ..
  have hadded : after.2 = [.added (.located key endpoint)] := by
    change ((s.endResolution 0).onResolved key 0 (some endpoint)).2 = _
    rw [Subscription.onResolved, hslot]
    rfl
  exact ⟨after.1, hadded ▸ (Subscription.Run.start.step happear).step hanswer⟩

/-- In some run a key of another name is listed. -/
theorem exists_copying_listed (settings : BrowserSettings) (serviceType : String) {own : String}
    {key : PeerKey} (hname : key.name ≠ own) :
    ∃ w events, Copying settings serviceType own 0 w events ∧
      w.view.table.entries.get? key ≠ none := by
  let peer := Peer.located key (.v4 ⟨10, 0, 0, 1⟩ 1)
  obtain ⟨subscription, hrun⟩ :=
    exists_run_added settings serviceType key (.v4 ⟨10, 0, 0, 1⟩ 1)
  let l : Listener := { subscription, stream := 0, inbox := [.added peer] }
  let w : World := { listeners := Association.empty.put 0 l }
  have hstart : Copying settings serviceType own 0 (w.setFollower 0 { ownInstance := own }) [] :=
    .start rfl rfl rfl rfl hrun
  have hrequest : Follower.request? own (.added peer) = some (.insert peer) :=
    Follower.request?_added hname
  obtain ⟨w₁, hfollow, hview⟩ : ∃ w₁,
      (w.setFollower 0 { ownInstance := own }).follow? 0 .follow = some w₁ ∧
        w₁.view = { requests := [(0, .insert peer)] } := by
    have hl : (w.setFollower 0 { ownInstance := own }).listeners.get? 0 = some l := rfl
    have hf : (w.setFollower 0 { ownInstance := own }).followers.get? 0 =
      some { ownInstance := own } := rfl
    rw [follow?, stepFollower?, takeEvent?, hf, hl]
    have hgoes : .follower 0 ∉ (w.setFollower 0 { ownInstance := own }).aborting :=
      List.not_mem_nil
    dsimp only [Option.bind_some]
    rw [if_neg hgoes, if_neg Bool.false_ne_true]
    dsimp only [l]
    rw [hrequest]
    exact ⟨_, rfl, rfl⟩
  have htaken : (w.setFollower 0 { ownInstance := own }).taken 0 .follow = [.added peer] := rfl
  obtain ⟨view, answers, hstep, hopen, hrequests⟩ : ∃ view answers,
      w₁.view.step? w₁.step = some (view, answers) ∧ view.closed = false ∧ view.requests = [] := by
    rw [hview]
    exact ⟨_, _, rfl, rfl, rfl⟩
  have hwork : w₁.follow? 0 .work = some
      { w₁ with
        view
        replies := answers.foldl (fun m answer => m.put answer.1 answer.2) w₁.replies } := by
    rw [follow?, stepView?, hstep]
    rfl
  have hrun := (hstart.step hfollow).step hwork
  obtain ⟨live, hlive, -, -, hshows⟩ := hrun.table_eq_fold
  have hnone : ∀ p ∈ view.requests, p.2.writes = false := by
    rw [hrequests]
    exact fun p hp => absurd hp List.not_mem_nil
  have hkey := (hshows hopen hnone).1 key
  have hfold : live = Association.put .empty key peer := (Option.some.inj hlive).symm
  refine ⟨_, _, hrun, fun he => ?_⟩
  rw [if_neg hname, he, hfold, Association.get?_put_self] at hkey
  cases hkey

/-- A follower that follows the type of the node's own record, for the node's own name, looks
    at the name of the key that is read off the record's advert. In no run whatsoever the view
    lists anything under that key, if and only if the record's type has no subtype mark and its
    name does not end in a dot; for that is when the key has the name of the record. -/
theorem own_unlisted_iff (settings : BrowserSettings) (interface : String)
    (hadvert : Advert.ofRecord record multicast = .ok advert) :
    let key := PeerKey.ofFullName advert.fullName record.serviceType interface
    let plain := (Advert.splitSubtype record.serviceType).2 = none ∧
      record.instanceName.toList.getLast? ≠ some '.'
    (key.name = record.instanceName ↔ plain) ∧
      ((∀ id w events, Copying settings record.serviceType record.instanceName id w events →
        w.view.table.entries.get? key = none) ↔ plain) := by
  intro key plain
  have hname : key.name = record.instanceName ↔ plain := by
    have hfull : key = .ofFullName (record.instanceName ++ "." ++
        (Advert.splitSubtype record.serviceType).1) record.serviceType interface :=
      congrArg (PeerKey.ofFullName · _ _) (Advert.fullName_of_ofRecord hadvert)
    rw [hfull]
    exact Advert.name_ofFullName_iff ..
  refine ⟨hname, fun hall => ?_, fun hplain id w events h => h.get?_own (hname.2 hplain)⟩
  by_contra hplain
  obtain ⟨w, events, h, hlisted⟩ :=
    exists_copying_listed settings record.serviceType (fun he => hplain (hname.1 he))
  exact hlisted (hall 0 w events h)

/-- A name with a dot in it, but not at the end. -/
theorem own_unlisted_iff_dotted :
    let record : ServiceRecord :=
      { instanceName := "my.nas", serviceType := "_files._tcp.local.", port := 9000 }
    ∃ advert, Advert.ofRecord record {} = .ok advert ∧
      advert.fullName = "my.nas._files._tcp.local." ∧
      (PeerKey.ofFullName advert.fullName record.serviceType "eth0").name = "my.nas" ∧
      ∀ id w events, Copying {} record.serviceType record.instanceName id w events →
        w.view.table.entries.get?
          (.ofFullName advert.fullName record.serviceType "eth0") = none := by
  intro record
  obtain ⟨advert, hadvert⟩ := Advert.exists_ofRecord (rfl : record.metadata = .empty)
  have hfull : advert.fullName = "my.nas._files._tcp.local." := by
    rw [Advert.fullName_of_ofRecord hadvert]
    decide +kernel
  obtain ⟨hname, hunlisted⟩ := own_unlisted_iff {} "eth0" hadvert
  have hplain : (Advert.splitSubtype record.serviceType).2 = none ∧
      record.instanceName.toList.getLast? ≠ some '.' := by
    decide +kernel
  exact ⟨advert, hadvert, hfull, hname.2 hplain, hunlisted.2 hplain⟩

/-- A name that ends in a dot, and a type with a subtype mark: the record may be announced and
    is published, and its own node lists it. -/
theorem own_listed :
    let dotted : ServiceRecord :=
      { instanceName := "nas.", serviceType := "_files._tcp.local.", port := 9000 }
    let marked : ServiceRecord :=
      { instanceName := "nas", serviceType := "_photos._sub._files._tcp.local.", port := 9000 }
    ∀ record ∈ [dotted, marked], Announcer.recordFault? record = none ∧
      ∃ advert, Advert.ofRecord record {} = .ok advert ∧
        ∃ w events, Copying {} record.serviceType record.instanceName 0 w events ∧
          w.view.table.entries.get?
            (.ofFullName advert.fullName record.serviceType "eth0") ≠ none := by
  intro dotted marked record hrecord
  have hfaults : ∀ record ∈ [dotted, marked], Announcer.recordFault? record = none := by
    decide +kernel
  have hbare : ∀ record ∈ [dotted, marked], record.metadata = .empty := by
    decide +kernel
  have hplain : ∀ record ∈ [dotted, marked], ¬((Advert.splitSubtype record.serviceType).2 = none ∧
      record.instanceName.toList.getLast? ≠ some '.') := by
    decide +kernel
  obtain ⟨advert, hadvert⟩ := Advert.exists_ofRecord (hbare record hrecord)
  refine ⟨hfaults record hrecord, advert, hadvert, exists_copying_listed {} _ fun he => ?_⟩
  rw [Advert.fullName_of_ofRecord hadvert, Advert.name_ofFullName_iff] at he
  exact hplain record hrecord he

end World

end ServiceDiscovery
