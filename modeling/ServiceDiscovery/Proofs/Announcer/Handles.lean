import ServiceDiscovery.Proofs.Announcer.Bystanders
import ServiceDiscovery.Proofs.Announcer.Rest

/-!
# Handles

Who holds the handle of an announcement may consume it once (`World.Handling`): withdraw
it on any announcer, or drop it. Beside the network stands what became of the handles,
a `Custody`.

A release works on the announcer that it was started on. So once nothing is under way,
an announcement whose handle was consumed is gone if and only if its handle was
withdrawn on the announcer that made it, or dropped, unless a shutdown or a collision
had the announcement gone anyway (`World.Handling.released_iff`). Whatever is done with a
handle, no other announcement has any part in it.
-/

namespace ServiceDiscovery

namespace World

/-- What became of the handles of announcements. -/
structure Custody where
  /-- The handles that were consumed, each with the release that this started; none if
      that was given up. -/
  spent : Association Nat (Option TaskRef) := .empty
  /-- The announcements that a shutdown took, or a supervisor dropped. -/
  freed : List Nat := []

/-- The task that an announcer starts next. -/
def nextRef (w : World) (name : String) : TaskRef := ⟨name, (w.announcer name).nextTask⟩

/-- Whether an action is up to those who hold the handles: a handle is consumed once, and
    not before it is there. -/
def Custody.allows (c : Custody) (w : World) : AnnouncerAction → Bool
  | .withdraw id | .dropHandle id => w.owners.contains id && !c.spent.contains id
  | _ => true

/-- The custody with a handle dropped. -/
def Custody.drop (c : Custody) (w : World) (id : Nat) : Custody :=
  { c with spent := c.spent.put id ((w.owners.get? id).map w.nextRef) }

/-- The custody after one more action. -/
def Custody.after (c : Custody) (w : World) (name : String) : AnnouncerAction → Custody
  | .withdraw id => { c with spent := c.spent.put id (some (w.nextRef name)) }
  | .dropHandle id => c.drop w id
  | .proceed task => { c with freed := c.freed ++ ((w.announcer name).vacated task).toList }
  | .abort task =>
    match (w.announcer name).release? task with
    | some (some id, .handed) => c.drop w id
    | some (some id, _) => { c with spent := c.spent.put id none }
    | _ => c
  | _ => c

/-- The networks in which announcers that share a directory may find themselves, and
    what became of the handles. -/
inductive Handling (settings : Association String AnnouncerSettings) : World → Custody → Prop
  | start : Handling settings (withAnnouncers settings) {}
  | step {w w' : World} {c : Custody} {name : String} {action : AnnouncerAction} :
      Handling settings w c → c.allows w action = true → w.act? name action = some w' →
      Handling settings w' (c.after w name action)

/-- The network and the custody after a series of actions, each of an announcer, if they
    could happen. -/
def handleAll? (w : World) (c : Custody) :
    List (String × AnnouncerAction) → Option (World × Custody)
  | [] => some (w, c)
  | (name, action) :: actions =>
    if c.allows w action then
      (w.act? name action).bind fun w' => w'.handleAll? (c.after w name action) actions
    else none

variable {settings : Association String AnnouncerSettings} {w w' : World} {c c' : Custody}
  {name : String} {action : AnnouncerAction}

theorem Handling.handleAll {actions : List (String × AnnouncerAction)} (h : Handling settings w c)
    (hw : w.handleAll? c actions = some (w', c')) : Handling settings w' c' := by
  induction actions generalizing w c with
  | nil =>
    obtain ⟨rfl, rfl⟩ := Prod.mk.inj (Option.some.inj hw)
    exact h
  | cons head actions ih =>
    obtain ⟨name, action⟩ := head
    obtain ⟨hallows, hrest⟩ := Option.ite_none_right_eq_some.1 hw
    obtain ⟨w₁, hfirst, hrest⟩ := Option.bind_eq_some_iff.1 hrest
    exact ih (h.step hallows hfirst) hrest

theorem Handling.sharing (h : Handling settings w c) : Sharing settings w := by
  induction h with
  | start => exact .start
  | step _ _ hw ih => exact ih.step hw

/-! ## What custody keeps -/

/-- What custody says of a network. -/
structure Kept (w : World) (c : Custody) : Prop where
  made : ∀ {id n}, w.owners.get? id = some n → id < w.nextAnnouncement
  owner : ∀ {n id}, (w.announcer n).currentId? = some id → w.owners.get? id = some n
  known : ∀ {id ref}, c.spent.get? id = some ref → ∃ n, w.owners.get? id = some n
  /-- A release that is meant for an announcement is the one that was started with its
      handle. -/
  release : ∀ {n t id stage}, (w.announcer n).release? t = some (some id, stage) →
    c.spent.get? id = some (some ⟨n, t⟩)
  /-- A release on the owner takes what it is meant for. -/
  bound : ∀ {id n t}, w.owners.get? id = some n → c.spent.get? id = some (some ⟨n, t⟩) →
    (w.announcer n).Pending t id ∨ (w.announcer n).currentId? ≠ some id
  freed : ∀ {id}, id ∈ c.freed → (∃ n, w.owners.get? id = some n) ∧
    ∀ n, (w.announcer n).currentId? ≠ some id
  /-- Nobody else lets an announcement go. -/
  gone : ∀ {id n}, w.owners.get? id = some n → (w.announcer n).currentId? = some id ∨
    id ∈ c.freed ∨ c.spent.get? id = some none ∨ ∃ t, c.spent.get? id = some (some ⟨n, t⟩)

theorem release?_spawn (a : Announcer) (x : AnnouncerTask) (t : Nat) :
    (a.spawn x).1.release? t = if t = a.nextTask then x.release? else a.release? t := by
  rw [Announcer.release?, Announcer.spawn, Association.get?_put]
  split <;> rfl

/-- The releases there are once one announcer has started a task. -/
theorem release?_spawn_at {x : AnnouncerTask}
    (ha : ∀ n, w'.announcer n =
      if n = name then ((w.announcer name).spawn x).1 else w.announcer n) (n : String) (t : Nat) :
    (w'.announcer n).release? t =
      if n = name ∧ t = (w.announcer name).nextTask then x.release?
      else (w.announcer n).release? t := by
  rw [ha]
  by_cases hn : n = name
  · subst hn
    simp only [if_true, true_and, release?_spawn]
  · simp only [hn, if_false, false_and]

theorem currentId?_spawn_at {x : AnnouncerTask}
    (ha : ∀ n, w'.announcer n =
      if n = name then ((w.announcer name).spawn x).1 else w.announcer n) (n : String) :
    (w'.announcer n).currentId? = (w.announcer n).currentId? := by
  rw [ha]
  split
  · rename_i hn
    rw [hn]
    rfl
  · rfl

/-- The number of the next task is that of no release. -/
theorem release?_next (hu : (w.scene name).Upright) :
    (w.announcer name).release? (w.announcer name).nextTask = none :=
  congrArg (·.bind AnnouncerTask.release?) hu.order.next

namespace Kept

theorem start (settings : Association String AnnouncerSettings) :
    Kept (withAnnouncers settings) {} := by
  have hnew (n : String) : ((withAnnouncers settings).announcer n).currentId? = none ∧
      ∀ t, ((withAnnouncers settings).announcer n).release? t = none := by
    obtain ⟨s, hs⟩ := Sharing.announcer_withAnnouncers settings n
    rw [hs]
    exact ⟨rfl, fun _ => rfl⟩
  refine ⟨fun h => (by cases h), fun h => ?_, fun h => (by cases h), fun h => ?_,
    fun h => (by cases h), fun h => (by cases h), fun h => (by cases h)⟩
  · cases (hnew _).1.symm.trans h
  · cases ((hnew _).2 _).symm.trans h

/-- A step of a task that makes nothing known. -/
theorem lets {a' : Announcer} {t : Nat} (h : Kept w c)
    (ha : ∀ n, w'.announcer n = if n = name then a' else w.announcer n)
    (howners : w'.owners = w.owners) (hnext : w'.nextAnnouncement = w.nextAnnouncement)
    (hlets : (w.announcer name).Lets a' t) :
    Kept w' { c with freed := c.freed ++ ((w.announcer name).vacated t).toList } := by
  have hself : w'.announcer name = a' := by rw [ha, if_pos rfl]
  have hother {n : String} (hn : n ≠ name) : w'.announcer n = w.announcer n := by
    rw [ha, if_neg hn]
  -- What is announced was announced before.
  have hcurrent {n : String} {id : Nat} (hid : (w'.announcer n).currentId? = some id) :
      (w.announcer n).currentId? = some id := by
    by_cases hn : n = name
    · subst hn
      rw [hself] at hid
      rcases hlets.current with he | hnone
      · exact he.symm.trans hid
      · cases hnone.symm.trans hid
    · exact hother hn ▸ hid
  refine ⟨?_, ?_, ?_, ?_, ?_, ?_, ?_⟩
  · intro id n hid
    rw [howners] at hid
    exact hnext ▸ h.made hid
  · intro n id hid
    exact howners ▸ h.owner (hcurrent hid)
  · intro id ref hid
    exact howners ▸ h.known hid
  · intro n t' id stage hr
    by_cases hn : n = name
    · subst hn
      rw [hself] at hr
      obtain ⟨before, hr⟩ := hlets.release hr
      exact h.release hr
    · exact h.release (hother hn ▸ hr)
  · intro id n t' hid hspent
    rw [howners] at hid
    rcases h.bound hid hspent with hp | hnot
    · by_cases hn : n = name
      · subst hn
        rw [hself]
        exact hlets.pending hp
      · exact .inl (hother hn ▸ hp)
    · exact .inr fun he => hnot (hcurrent he)
  · intro id hm
    rcases List.mem_append.1 hm with hm | hm
    · obtain ⟨hmade, hnot⟩ := h.freed hm
      exact ⟨howners ▸ hmade, fun n he => hnot n (hcurrent he)⟩
    · obtain ⟨hid, hnone⟩ := hlets.vacated (Option.mem_toList.1 hm)
      have howner := h.owner hid
      refine ⟨⟨name, howners ▸ howner⟩, fun n he => ?_⟩
      obtain rfl : n = name := Option.some.inj ((h.owner (hcurrent he)).symm.trans howner)
      rw [hself, hnone] at he
      cases he
  · intro id n hid
    rw [howners] at hid
    rcases h.gone hid with hc | hm | hspent
    · by_cases hn : n = name
      · subst hn
        rw [hself]
        rcases hlets.current with he | hnone
        · exact .inl (he.trans hc)
        · rcases hlets.lost hc hnone with hv | ⟨stage, hr⟩
          · exact .inr (.inl (List.mem_append_right _ (Option.mem_toList.2 hv)))
          · exact .inr (.inr (.inr ⟨t, h.release hr⟩))
      · exact .inl (hother hn ▸ hc)
    · exact .inr (.inl (List.mem_append_left _ hm))
    · exact .inr (.inr hspent)

/-- An announcement is stored. -/
theorem stored {a' : Announcer} (h : Kept w c)
    (ha : ∀ n, w'.announcer n = if n = name then a' else w.announcer n)
    (howners : w'.owners = w.owners.put w.nextAnnouncement name)
    (hnext : w'.nextAnnouncement = w.nextAnnouncement + 1)
    (hrelease : ∀ t, a'.release? t = (w.announcer name).release? t)
    (hnone : (w.announcer name).currentId? = none)
    (hsome : a'.currentId? = some w.nextAnnouncement) : Kept w' c := by
  have hself : w'.announcer name = a' := by rw [ha, if_pos rfl]
  have hother {n : String} (hn : n ≠ name) : w'.announcer n = w.announcer n := by
    rw [ha, if_neg hn]
  -- The number is new.
  have hold {id : Nat} {n : String} (hid : w.owners.get? id = some n) :
      id ≠ w.nextAnnouncement ∧ w'.owners.get? id = some n := by
    have hne := Nat.ne_of_lt (h.made hid)
    exact ⟨hne, by rw [howners, Association.get?_put_of_ne _ _ hne, hid]⟩
  have howner {id : Nat} {n : String} (hid : w'.owners.get? id = some n) :
      (id = w.nextAnnouncement ∧ n = name) ∨ w.owners.get? id = some n := by
    rw [howners, Association.get?_put] at hid
    split at hid
    · exact .inl ⟨‹_›, (Option.some.inj hid).symm⟩
    · exact .inr hid
  have hreleases (n : String) (t : Nat) :
      (w'.announcer n).release? t = (w.announcer n).release? t := by
    by_cases hn : n = name
    · subst hn
      rw [hself, hrelease]
    · rw [hother hn]
  have hcurrent {n : String} {id : Nat} (hid : (w'.announcer n).currentId? = some id) :
      (id = w.nextAnnouncement ∧ n = name) ∨ (w.announcer n).currentId? = some id := by
    by_cases hn : n = name
    · subst hn
      rw [hself, hsome] at hid
      exact .inl ⟨(Option.some.inj hid).symm, rfl⟩
    · exact .inr (hother hn ▸ hid)
  refine ⟨?_, ?_, ?_, ?_, ?_, ?_, ?_⟩
  · intro id n hid
    rw [hnext]
    rcases howner hid with ⟨rfl, -⟩ | hid
    · exact Nat.lt_succ_self _
    · exact Nat.lt_succ_of_lt (h.made hid)
  · intro n id hid
    rcases hcurrent hid with ⟨rfl, rfl⟩ | hid
    · rw [howners, Association.get?_put_self]
    · exact (hold (h.owner hid)).2
  · intro id ref hid
    obtain ⟨n, hn⟩ := h.known hid
    exact ⟨n, (hold hn).2⟩
  · intro n t id stage hr
    exact h.release (hreleases n t ▸ hr)
  · intro id n t hid hspent
    obtain ⟨m, hm⟩ := h.known hspent
    rcases howner hid with ⟨rfl, -⟩ | hid
    · exact absurd rfl (hold hm).1
    · rcases h.bound hid hspent with hp | hnot
      · exact .inl (hp.imp (hreleases n t).trans (hreleases n t).trans)
      · refine .inr fun he => ?_
        rcases hcurrent he with ⟨rfl, -⟩ | he
        · exact (hold hm).1 rfl
        · exact hnot he
  · intro id hm
    obtain ⟨⟨n, hn⟩, hnot⟩ := h.freed hm
    refine ⟨⟨n, (hold hn).2⟩, fun m he => ?_⟩
    rcases hcurrent he with ⟨rfl, -⟩ | he
    · exact (hold hn).1 rfl
    · exact hnot m he
  · intro id n hid
    rcases howner hid with ⟨rfl, rfl⟩ | hid
    · exact .inl (by rw [hself, hsome])
    · refine (h.gone hid).imp_left fun hc => ?_
      have hn : n ≠ name := by
        rintro rfl
        cases hnone.symm.trans hc
      exact hother hn ▸ hc

/-- Nothing is let go. -/
theorem of_current (h : Kept w c) (hfreed : c'.freed = c.freed)
    (hc : ∀ n, (w'.announcer n).currentId? = (w.announcer n).currentId?)
    (howners : w'.owners = w.owners) (hnext : w'.nextAnnouncement = w.nextAnnouncement)
    (hknown : ∀ {id ref}, c'.spent.get? id = some ref → ∃ n, w.owners.get? id = some n)
    (hrelease : ∀ {n t id stage}, (w'.announcer n).release? t = some (some id, stage) →
      c'.spent.get? id = some (some ⟨n, t⟩))
    (hbound : ∀ {id n t}, w.owners.get? id = some n → c'.spent.get? id = some (some ⟨n, t⟩) →
      (w'.announcer n).Pending t id ∨ (w.announcer n).currentId? ≠ some id)
    (hgone : ∀ {id n}, w.owners.get? id = some n →
      c.spent.get? id = some none ∨ (∃ t, c.spent.get? id = some (some ⟨n, t⟩)) →
      c'.spent.get? id = some none ∨ ∃ t, c'.spent.get? id = some (some ⟨n, t⟩)) :
    Kept w' c' where
  made hid := by
    rw [howners] at hid
    exact hnext ▸ h.made hid
  owner hid := by
    rw [hc] at hid
    exact howners ▸ h.owner hid
  known hid := howners ▸ hknown hid
  release := hrelease
  bound hid hspent := by
    rw [howners] at hid
    rw [hc]
    exact hbound hid hspent
  freed hm := by
    rw [hfreed] at hm
    obtain ⟨hmade, hnot⟩ := h.freed hm
    exact ⟨howners ▸ hmade, fun n => by rw [hc]; exact hnot n⟩
  gone hid := by
    rw [howners] at hid
    rw [hc, hfreed]
    exact (h.gone hid).imp_right fun h => h.imp_right (hgone hid)

/-- No announcer moves. -/
theorem still (h : Kept w c) (ha : ∀ n, w'.announcer n = w.announcer n)
    (howners : w'.owners = w.owners) (hnext : w'.nextAnnouncement = w.nextAnnouncement) :
    Kept w' c := by
  refine h.of_current rfl (fun n => by rw [ha]) howners hnext h.known (fun hr => ?_)
    (fun hid hs => ?_) fun _ hs => hs
  · rw [ha] at hr
    exact h.release hr
  · rw [ha]
    exact h.bound hid hs

/-- A task is started with no handle. -/
theorem started {x : AnnouncerTask} (h : Kept w c)
    (hfresh : (w.announcer name).release? (w.announcer name).nextTask = none)
    (ha : ∀ n, w'.announcer n =
      if n = name then ((w.announcer name).spawn x).1 else w.announcer n)
    (howners : w'.owners = w.owners) (hnext : w'.nextAnnouncement = w.nextAnnouncement)
    (hx : ∀ id stage, x.release? ≠ some (some id, stage)) : Kept w' c := by
  have hrelease (n : String) (t : Nat) := release?_spawn_at ha n t
  refine h.of_current rfl (currentId?_spawn_at ha) howners hnext h.known ?_ ?_ fun _ h => h
  · intro n t id stage hr
    rw [hrelease] at hr
    split at hr
    · exact absurd hr (hx id stage)
    · exact h.release hr
  · intro id n t hid hspent
    refine (h.bound hid hspent).imp_left fun hp => ?_
    have hnot : ¬(n = name ∧ t = (w.announcer name).nextTask) := by
      rintro ⟨rfl, rfl⟩
      rcases hp with hp | hp <;> cases hfresh.symm.trans hp
    exact hp.imp (fun hp => by rw [hrelease, if_neg hnot, hp])
      fun hp => by rw [hrelease, if_neg hnot, hp]

/-- A release is started with a handle. -/
theorem consumed {x : AnnouncerTask} {id : Nat} {stage : ReleaseStage} (h : Kept w c)
    (hfresh : (w.announcer name).release? (w.announcer name).nextTask = none)
    (ha : ∀ n, w'.announcer n =
      if n = name then ((w.announcer name).spawn x).1 else w.announcer n)
    (howners : w'.owners = w.owners) (hnext : w'.nextAnnouncement = w.nextAnnouncement)
    (hx : x.release? = some (some id, stage)) (hstage : stage = .handed ∨ stage = .taking)
    (hmade : ∃ n, w.owners.get? id = some n)
    (hunspent : ∀ n t stage, (w.announcer n).release? t ≠ some (some id, stage))
    (hprevious : c.spent.get? id = none ∨ w.owners.get? id = some name)
    (hfreed : c'.freed = c.freed)
    (hspent : ∀ i, c'.spent.get? i =
      if i = id then some (some (w.nextRef name)) else c.spent.get? i) : Kept w' c' := by
  have hrelease (n : String) (t : Nat) := release?_spawn_at ha n t
  refine h.of_current hfreed (currentId?_spawn_at ha) howners hnext ?_ ?_ ?_ ?_
  · intro i ref hi
    rw [hspent] at hi
    split at hi
    · rename_i he
      exact he ▸ hmade
    · exact h.known hi
  · intro n t i stage' hr
    rw [hrelease] at hr
    rw [hspent]
    split at hr
    · rename_i he
      obtain ⟨rfl, rfl⟩ := he
      rw [hx] at hr
      cases hr
      rw [if_pos rfl, nextRef]
    · have hne : i ≠ id := by
        rintro rfl
        exact hunspent n t stage' hr
      rw [if_neg hne]
      exact h.release hr
  · intro i n t hi hs
    rw [hspent] at hs
    split at hs
    · rename_i he
      subst he
      cases hs
      left
      rcases hstage with rfl | rfl
      · exact .inl (by rw [hrelease, if_pos ⟨rfl, rfl⟩, hx])
      · exact .inr (by rw [hrelease, if_pos ⟨rfl, rfl⟩, hx])
    · refine (h.bound hi hs).imp_left fun hp => ?_
      have hnot : ¬(n = name ∧ t = (w.announcer name).nextTask) := by
        rintro ⟨rfl, rfl⟩
        rcases hp with hp | hp <;> cases hfresh.symm.trans hp
      exact hp.imp (fun hp => by rw [hrelease, if_neg hnot, hp])
        fun hp => by rw [hrelease, if_neg hnot, hp]
  · intro i n hi hs
    by_cases he : i = id
    · subst he
      rcases hprevious with hnone | howner
      · rcases hs with hs | ⟨t, hs⟩ <;> cases hnone.symm.trans hs
      · obtain rfl := Option.some.inj (howner.symm.trans hi)
        exact .inr ⟨_, by rw [hspent, if_pos rfl, nextRef]⟩
    · rw [hspent, if_neg he]
      exact hs

/-- A task is given up. -/
theorem ended {a' : Announcer} {t : Nat} (h : Kept w c)
    (ha : ∀ n, w'.announcer n = if n = name then a' else w.announcer n)
    (howners : w'.owners = w.owners) (hnext : w'.nextAnnouncement = w.nextAnnouncement)
    (hc : a'.currentId? = (w.announcer name).currentId?)
    (hreleases : ∀ t', a'.release? t' =
      if t' = t then none else (w.announcer name).release? t')
    (hfreed : c'.freed = c.freed)
    (hself : ∀ {id stage}, (w.announcer name).release? t = some (some id, stage) →
      c'.spent.get? id = some none)
    (hother : ∀ {id}, (∀ stage, (w.announcer name).release? t ≠ some (some id, stage)) →
      c'.spent.get? id = c.spent.get? id) : Kept w' c' := by
  have hrelease (n : String) (t' : Nat) : (w'.announcer n).release? t' =
      if n = name ∧ t' = t then none else (w.announcer n).release? t' := by
    rw [ha]
    by_cases hn : n = name
    · subst hn
      simp only [if_true, true_and, hreleases]
    · simp only [hn, if_false, false_and]
  refine h.of_current hfreed (fun n => ?_) howners hnext ?_ ?_ ?_ ?_
  · rw [ha]
    split
    · rename_i hn
      rw [hn, hc]
    · rfl
  · intro id ref hs
    by_cases hmeant : ∃ stage, (w.announcer name).release? t = some (some id, stage)
    · obtain ⟨stage, hr⟩ := hmeant
      exact h.known (h.release hr)
    · exact h.known ((hother fun stage hr => hmeant ⟨stage, hr⟩).symm.trans hs)
  · intro n t' id stage hr
    rw [hrelease] at hr
    split at hr
    · cases hr
    · rename_i hne
      have hs := h.release hr
      refine (hother fun stage' hr' => hne ?_).trans hs
      have he := Option.some.inj (Option.some.inj (hs.symm.trans (h.release hr')))
      exact ⟨(TaskRef.mk.inj he).1, (TaskRef.mk.inj he).2⟩
  · intro id n t' hid hs
    have hnot : ∀ stage, (w.announcer name).release? t ≠ some (some id, stage) := by
      intro stage hr
      cases (hself hr).symm.trans hs
    refine (h.bound hid ((hother hnot).symm.trans hs)).imp_left fun hp => ?_
    have hne : ¬(n = name ∧ t' = t) := by
      rintro ⟨rfl, rfl⟩
      rcases hp with hp | hp <;> exact hnot _ hp
    exact hp.imp (fun hp => by rw [hrelease, if_neg hne, hp])
      fun hp => by rw [hrelease, if_neg hne, hp]
  · intro id n hid hs
    by_cases hmeant : ∃ stage, (w.announcer name).release? t = some (some id, stage)
    · obtain ⟨stage, hr⟩ := hmeant
      exact .inl (hself hr)
    · rw [hother fun stage hr => hmeant ⟨stage, hr⟩]
      exact hs

end Kept

/-! ## Actions -/

/-- Effects that make nothing known leave the owners as they are. -/
theorem owners_effects (name : String) (w : World) {effects : List AnnouncerEffect}
    (h : ∀ effect ∈ effects, effect.announced? = none) :
    (effects.foldl (applyEffect name) w).owners = w.owners ∧
      (effects.foldl (applyEffect name) w).nextAnnouncement = w.nextAnnouncement := by
  induction effects generalizing w with
  | nil => exact ⟨rfl, rfl⟩
  | cons effect effects ih =>
    have hrest := ih (applyEffect name w effect) fun e he => h e (List.mem_cons_of_mem _ he)
    have heffect := h effect List.mem_cons_self
    rw [List.foldl_cons, hrest.1, hrest.2]
    cases effect with
    | register | withdraw | forgo => exact ⟨rfl, rfl⟩
    | drop id =>
      rw [applyEffect, dropHandle_frame]
      exact ⟨rfl, rfl⟩
    | ended t result =>
      cases result with
      | announced => cases heffect
      | refused | released | unattended =>
        simp only [applyEffect]
        rw [conclude_frame]
        exact ⟨rfl, rfl⟩

section

variable {t : Nat} {signal : AnnouncerSignal} (h : Kept w c)
  (hvacant : (w.announcer name).Vacant)
  (hfresh : (w.announcer name).tasks.get? (w.announcer name).nextTask = none)

include h hvacant hfresh

theorem Kept.signalled (hw : w.signal? ⟨name, t⟩ signal = some w') :
    Kept w' { c with freed := c.freed ++ ((w.announcer name).vacated t).toList } := by
  obtain ⟨stepped, hstep, rfl⟩ := signal?_eq_some hw
  have ha (n : String) : (w.afterAnnouncer name stepped).announcer n =
      if n = name then stepped.1 else w.announcer n :=
    announcer_afterAnnouncer w (Lifetime.drop_not_mem hstep) n
  rcases (Announcer.turn_of_step? hvacant hfresh hstep).lets with
    ⟨hlets, heffects⟩ | ⟨a', record, rfl, hrelease, hvacated, hnone, hsome⟩
  · obtain ⟨howners, hnext⟩ := owners_effects name (w.setAnnouncer name stepped.1) heffects
    exact h.lets ha howners hnext hlets
  · rw [hvacated, Option.toList_none, List.append_nil]
    refine h.stored ha ?_ ?_ hrelease hnone hsome
    · rw [afterAnnouncer, List.foldl_cons, List.foldl_nil, applyEffect, conclude_frame]
      rfl
    · rw [afterAnnouncer, List.foldl_cons, List.foldl_nil, applyEffect, conclude_frame]
      rfl

/-- A task takes an answer, or notices something else. -/
theorem Kept.noticed (hsignal : signal ≠ .proceed) (hw : w.signal? ⟨name, t⟩ signal = some w') :
    Kept w' c := by
  obtain ⟨stepped, hstep, -⟩ := signal?_eq_some hw
  have hkept := h.signalled hvacant hfresh hw
  rw [Announcer.vacated_eq_none hstep hsignal, Option.toList_none, List.append_nil] at hkept
  exact hkept

theorem Kept.registered (hw : w.stepRegisterCall? ⟨name, t⟩ = some w') : Kept w' c := by
  obtain ⟨call, -, hw⟩ := Option.bind_eq_some_iff.1 hw
  split at hw
  · exact Kept.noticed (w := { w with registerCalls := w.registerCalls.erase ⟨name, t⟩ })
      (h.still (fun _ => rfl) rfl rfl) hvacant hfresh (fun he => by cases he) hw
  · obtain ⟨⟨registry, call'⟩, -, rfl⟩ := Option.map_eq_some_iff.1 hw
    exact h.still (fun _ => rfl) rfl rfl

theorem Kept.unregistered (hw : w.stepWithdrawCall? ⟨name, t⟩ = some w') : Kept w' c := by
  obtain ⟨call, -, hw⟩ := Option.bind_eq_some_iff.1 hw
  split at hw
  · exact Kept.noticed (w := { w with withdrawCalls := w.withdrawCalls.erase ⟨name, t⟩ })
      (h.still (fun _ => rfl) rfl rfl) hvacant hfresh (fun he => by cases he) hw
  · obtain ⟨⟨registry, call'⟩, -, rfl⟩ := Option.map_eq_some_iff.1 hw
    exact h.still (fun _ => rfl) rfl rfl

end

/-- A handle is dropped. -/
theorem Kept.dropped {id : Nat} {owner : String} (h : Kept w c)
    (hfresh : (w.announcer owner).release? (w.announcer owner).nextTask = none)
    (howner : w.owners.get? id = some owner)
    (hunspent : ∀ n t stage, (w.announcer n).release? t ≠ some (some id, stage))
    (hfreed : c'.freed = c.freed)
    (hspent : ∀ i, c'.spent.get? i =
      if i = id then some (some (w.nextRef owner)) else c.spent.get? i) :
    Kept (w.dropHandle id) c' := by
  have hframe := w.dropHandle_frame id
  refine h.consumed (x := .release (some id) .taking) hfresh (fun n => ?_) ?_ ?_ rfl (.inr rfl)
    ⟨owner, howner⟩ hunspent (.inr howner) hfreed hspent
  · rw [announcer_dropHandle, howner]
    by_cases hn : n = owner
    · subst hn
      rw [if_pos rfl, if_pos rfl]
    · rw [if_neg hn, if_neg fun he => hn (Option.some.inj he).symm]
  · rw [hframe]
  · rw [hframe]

theorem release?_endTask (a : Announcer) (t t' : Nat) :
    (a.endTask t).release? t' = if t' = t then none else a.release? t' := by
  rw [Announcer.release?, Announcer.endTask, Association.get?_erase]
  split <;> rfl

/-- A task that is given up leaves what is announced, and is no release any more. -/
theorem release?_abort (a : Announcer) (t t' : Nat) :
    (a.abort t).1.currentId? = a.currentId? ∧
      (a.abort t).1.release? t' = if t' = t then none else a.release? t' := by
  have hend (b : Announcer) (hb : b.tasks = a.tasks) :
      (b.endTask t).release? t' = if t' = t then none else a.release? t' := by
    rw [release?_endTask, Announcer.release?, hb]
    rfl
  have hstays (hnone : a.release? t = none) :
      a.release? t' = if t' = t then none else a.release? t' := by
    split
    · rename_i ht
      rw [ht, hnone]
    · rfl
  rw [Announcer.abort]
  cases hx : a.tasks.get? t with
  | none => exact ⟨rfl, hstays (by rw [Announcer.release?, hx]; rfl)⟩
  | some x =>
    cases x with
    | announce record stage =>
      cases stage with
      | claiming | subscribing | registering | storing => exact ⟨rfl, hend _ rfl⟩
    | release target stage =>
      cases stage with
      | handed | taking | withdrawing => exact ⟨rfl, hend _ rfl⟩
    | supervise => exact ⟨rfl, hstays (by rw [Announcer.release?, hx]; rfl)⟩

/-- Nothing is made known as a task is given up. -/
theorem announced?_abort (a : Announcer) (t : Nat) :
    ∀ effect ∈ (a.abort t).2, effect.announced? = none := by
  rw [Announcer.abort]
  split
  · rename_i stage _
    cases stage <;> simp [Announcer.abortAnnounce, AnnouncerEffect.announced?]
  · rename_i target stage _
    cases stage <;> cases target <;> simp [Announcer.abortRelease, AnnouncerEffect.announced?]
  · simp

/-- A withdrawal that is given up before it begins drops its handle. -/
theorem Kept.abort_handed {t id : Nat} (h : Kept w c)
    (hfresh : ∀ n, (w.announcer n).release? (w.announcer n).nextTask = none)
    (hr : (w.announcer name).release? t = some (some id, .handed)) :
    Kept ((w.setAnnouncer name ((w.announcer name).endTask t)).dropHandle id) (c.drop w id) := by
  have hset := announcer_setAnnouncer w name ((w.announcer name).endTask t)
  obtain ⟨owner, howner⟩ := h.known (h.release hr)
  -- First the withdrawal goes, and its release with it.
  have hended : Kept (w.setAnnouncer name ((w.announcer name).endTask t))
      { c with spent := c.spent.put id none } := by
    refine h.ended hset rfl rfl rfl (release?_endTask _ t) rfl (fun hr' => ?_) fun hnot => ?_
    · cases hr.symm.trans hr'
      exact c.spent.get?_put_self id none
    · exact c.spent.get?_put_of_ne none fun he => hnot _ (he ▸ hr)
  have hnextTask : ((w.setAnnouncer name ((w.announcer name).endTask t)).announcer owner).nextTask =
      (w.announcer owner).nextTask := by
    rw [hset]
    split
    · rename_i hn
      rw [hn]
      rfl
    · rfl
  refine hended.dropped ?_ howner (fun n t' stage hr' => ?_) rfl fun i => ?_
  · rw [hnextTask, hset]
    split
    · rename_i hn
      rw [release?_endTask, ← hn, hfresh]
      split <;> rfl
    · exact hfresh owner
  · cases (c.spent.get?_put_self id none).symm.trans (hended.release hr')
  · rw [Custody.drop, howner, nextRef, hnextTask, Association.get?_put, Association.get?_put]
    split <;> rfl

/-- A release that is given up later does not count any more. -/
theorem Custody.after_abort (c : Custody) {t : Nat}
    (hnot : ∀ id, (w.announcer name).release? t ≠ some (some id, .handed)) :
    (c.after w name (.abort t)).freed = c.freed ∧
      (∀ {id stage}, (w.announcer name).release? t = some (some id, stage) →
        (c.after w name (.abort t)).spent.get? id = some none) ∧
      ∀ {id}, (∀ stage, (w.announcer name).release? t ≠ some (some id, stage)) →
        (c.after w name (.abort t)).spent.get? id = c.spent.get? id := by
  rw [Custody.after]
  split
  · rename_i id hr
    exact absurd hr (hnot id)
  · rename_i id stage _ hr
    refine ⟨rfl, fun hr' => ?_, fun hne => ?_⟩
    · cases hr.symm.trans hr'
      exact c.spent.get?_put_self id none
    · exact c.spent.get?_put_of_ne none fun he => hne _ (he ▸ hr)
  · rename_i hnone
    refine ⟨rfl, fun {id stage} hr => ?_, fun _ => rfl⟩
    cases stage with
    | handed => exact absurd hr (hnot id)
    | taking | withdrawing => exact absurd hr (hnone id _)

theorem Kept.abort {t : Nat} (h : Kept w c)
    (hfresh : ∀ n, (w.announcer n).release? (w.announcer n).nextTask = none) :
    Kept (w.abortTask ⟨name, t⟩) (c.after w name (.abort t)) := by
  have hkept : Kept (w.afterAnnouncer name ((w.announcer name).abort t))
      (c.after w name (.abort t)) := by
    rcases (w.announcer name).abort_effects t with hnone | ⟨id, hx, he⟩
    · obtain ⟨howners, hnext⟩ := owners_effects name
        (w.setAnnouncer name ((w.announcer name).abort t).1) (announced?_abort _ t)
      have hnot (id : Nat) : (w.announcer name).release? t ≠ some (some id, .handed) := by
        intro hr
        obtain ⟨x, hx, hx'⟩ := Option.bind_eq_some_iff.1 hr
        cases x with
        | announce | supervise => cases hx'
        | release =>
          cases hx'
          exact hnone id (by rw [Announcer.abort, hx]; exact List.mem_singleton_self _)
      obtain ⟨hfreed, hself, hother⟩ := c.after_abort hnot
      exact h.ended (announcer_afterAnnouncer w hnone) howners hnext (release?_abort _ t t).1
        (fun t' => (release?_abort _ t t').2) hfreed hself hother
    · have hr : (w.announcer name).release? t = some (some id, .handed) := by
        rw [Announcer.release?, hx]
        rfl
      rw [he, Custody.after, hr]
      exact h.abort_handed hfresh hr
  rw [abortTask, conclude_frame]
  exact hkept.still (fun _ => rfl) rfl rfl

/-- A handle that may be consumed is there, and was not consumed yet. -/
theorem allows_eq_true {id : Nat}
    (h : (w.owners.contains id && !c.spent.contains id) = true) :
    (∃ n, w.owners.get? id = some n) ∧ c.spent.get? id = none := by
  rw [Bool.and_eq_true, Association.contains, Association.contains, Option.isSome_iff_exists,
    Bool.not_eq_true', Option.isSome_eq_false_iff, Option.isNone_iff_eq_none] at h
  exact h

/-- What custody says holds all along. -/
theorem Handling.kept (h : Handling settings w c) : Kept w c := by
  induction h with
  | start => exact .start settings
  | @step w w' c name action hhandling hallows hw ih =>
    have hu := hhandling.sharing.upright
    have hvacant : (w.announcer name).Vacant :=
      .of_tended (hu name).order (hu name).status (hu name).supervision
    have hfresh : (w.announcer name).tasks.get? (w.announcer name).nextTask = none :=
      (hu name).order.next
    have hnext (n : String) := release?_next (hu n)
    have hunspent {id : Nat} (hnone : c.spent.get? id = none) (n : String) (t : Nat)
        (stage : ReleaseStage) : (w.announcer n).release? t ≠ some (some id, stage) := by
      intro hr
      cases hnone.symm.trans (ih.release hr)
    cases action with
    | announce record =>
      obtain rfl := Option.some.inj hw
      exact ih.started (x := .announce record .claiming) (hnext name)
        (announcer_setAnnouncer w name _) rfl rfl fun _ _ he => by cases he
    | withdraw id =>
      obtain rfl := Option.some.inj hw
      obtain ⟨hmade, hnone⟩ := allows_eq_true hallows
      exact ih.consumed (x := .release (some id) .handed) (hnext name)
        (announcer_setAnnouncer w name _) rfl rfl rfl (.inl rfl) hmade (hunspent hnone)
        (.inl hnone) rfl fun i => c.spent.get?_put id i _
    | shutdown =>
      obtain rfl := Option.some.inj hw
      exact ih.started (x := .release none .taking) (hnext name) (announcer_setAnnouncer w name _)
        rfl rfl fun _ _ he => by cases he
    | dropHandle id =>
      obtain rfl := Option.some.inj hw
      obtain ⟨⟨owner, howner⟩, hnone⟩ := allows_eq_true hallows
      refine ih.dropped (hnext owner) howner (hunspent hnone) rfl fun i => ?_
      rw [Custody.after, Custody.drop, howner]
      exact c.spent.get?_put id i _
    | proceed => exact ih.signalled hvacant hfresh hw
    | stop | expire => exact ih.noticed hvacant hfresh (fun he => by cases he) hw
    | register => exact ih.registered hvacant hfresh hw
    | unregister => exact ih.unregistered hvacant hfresh hw
    | abort =>
      obtain rfl := Option.some.inj hw
      exact ih.abort hnext
    | change | lag | wait =>
      obtain rfl := Option.some.inj hw
      exact ih.still (fun _ => rfl) rfl rfl

/-! ## At rest -/

/-- At rest no release has yet to look for what it is meant for. -/
theorem AtRest.not_pending (h : w.AtRest name) (ho : (w.scene name).Orderly) (t id : Nat) :
    ¬(w.announcer name).Pending t id := by
  have hstage {stage : ReleaseStage}
      (hr : (w.announcer name).release? t = some (some id, stage)) :
      (w.announcer name).tasks.get? t = some (.release (some id) stage) := by
    obtain ⟨x, hx, hrelease⟩ := Option.bind_eq_some_iff.1 hr
    cases x with
    | announce | supervise => cases hrelease
    | release =>
      obtain ⟨rfl, rfl⟩ := Prod.mk.inj (Option.some.inj hrelease)
      exact hx
  rintro (hr | hr)
  · have hstuck := h.stuck (hstage hr)
    rw [Announcer.step?, hstage hr] at hstuck
    cases hstuck
  · cases h.awaitsLock_eq_false ho (h.holder_eq_none ho) (hstage hr)

/-- Whether no announcer that is there has anything under way. -/
def quiet (w : World) : Bool :=
  w.aborting.isEmpty && w.registerCalls.keys.isEmpty && w.withdrawCalls.keys.isEmpty &&
    w.announcers.keys.all fun name => (w.announcer name).tasks.keys.all fun t =>
      (w.stepTask? ⟨name, t⟩).isNone &&
        ((w.announcer name).tasks.get? t).all fun x => (taskMoments x).isEmpty

theorem AtRest.of_quiet (h : w.quiet = true) (name : String) : w.AtRest name := by
  simp only [quiet, Bool.and_eq_true, List.isEmpty_iff, List.all_eq_true] at h
  obtain ⟨⟨⟨haborting, hregisters⟩, hwithdrawals⟩, htasks⟩ := h
  have hnone {α : Type} {m : Association TaskRef α} (hkeys : m.keys = []) (p : TaskRef) :
      m.get? p = none := by
    rw [Option.eq_none_iff_forall_ne_some]
    intro value hp
    have hm := (Association.mem_keys_iff m).2 ⟨value, hp⟩
    rw [hkeys] at hm
    cases hm
  refine .of_keys haborting (fun _ => hnone hregisters _) (fun _ => hnone hwithdrawals _) ?_
  cases ha : w.announcers.get? name with
  | some a =>
    intro t ht
    obtain ⟨hstuck, hmoments⟩ := htasks name ((Association.mem_keys_iff _).2 ⟨a, ha⟩) t ht
    refine ⟨Option.isNone_iff_eq_none.1 hstuck, fun x hx => ?_⟩
    rw [hx] at hmoments
    exact List.isEmpty_iff.1 hmoments
  | none =>
    -- An announcer that nobody asked for has no tasks.
    rw [announcer, ha]
    exact fun _ hm => absurd hm List.not_mem_nil

/-- Once nothing is under way, an announcement whose handle was consumed is gone if and only
    if its handle was consumed at the announcer that made it, or the announcement had gone in
    a shutdown or a collision. And what is done with a handle never concerns another
    announcement. -/
theorem Handling.released_iff (h : Handling settings w c) (id : Nat) :
    ((∀ n, w.AtRest n) → ∀ ref, c.spent.get? id = some (some ref) →
      ∃ owner, w.owners.get? id = some owner ∧
        ((∀ n, (w.announcer n).isCurrent id = false) ↔
          ref.announcer = owner ∨ id ∈ c.freed)) ∧
    ∀ name action w', w.Concerns id name action → w.act? name action = some w' →
      Spares w w' id := by
  have hkept := h.kept
  refine ⟨fun hrest ref hspent => ?_, fun name action w' hc hw => hc.spares h.sharing hw⟩
  obtain ⟨owner, howner⟩ := hkept.known hspent
  refine ⟨owner, howner, fun hgone => ?_, ?_⟩
  · have hnot : (w.announcer owner).currentId? ≠ some id := fun he => by
      cases (hgone owner).symm.trans (Announcer.isCurrent_iff.2 he)
    rcases hkept.gone howner with hc | hm | hnone | ⟨t, ht⟩
    · exact absurd hc hnot
    · exact .inr hm
    · cases hnone.symm.trans hspent
    · exact .inl (congrArg TaskRef.announcer (Option.some.inj (Option.some.inj
        (hspent.symm.trans ht))))
  · intro hcause n
    rw [← Bool.not_eq_true, Announcer.isCurrent_iff]
    intro hc
    obtain rfl := Option.some.inj ((hkept.owner hc).symm.trans howner)
    rcases hcause with hn | hm
    · obtain ⟨_, t⟩ := ref
      subst hn
      rcases hkept.bound howner hspent with hp | hnot
      · exact (hrest _).not_pending (h.sharing.upright _).order t id hp
      · exact hnot hc
    · exact (hkept.freed hm).2 n hc

/-- Two nodes announce, and each handle is withdrawn at the second: only the second's
    announcement goes. -/
theorem Handling.released_iff_crossed :
    let record (instanceName : String) : ServiceRecord :=
      { instanceName, serviceType := "t", port := 5000 }
    let announces (name : String) : List (String × AnnouncerAction) :=
      [.announce (record name), .proceed 0, .proceed 0, .register 0, .register 0, .register 0,
        .proceed 0].map fun action => (name, action)
    let withdraws : List (String × AnnouncerAction) :=
      [.withdraw 0, .withdraw 1, .proceed 2, .proceed 2, .proceed 3, .proceed 3, .unregister 3,
        .unregister 3, .stop 1].map fun action => ("b", action)
    ∃ w c, (withAnnouncers .empty).handleAll? {} (announces "a" ++ announces "b" ++ withdraws) =
        some (w, c) ∧ (∀ n, w.AtRest n) ∧
      (∃ n, (w.announcer n).isCurrent 0 = true) ∧ (∀ n, (w.announcer n).isCurrent 1 = false) ∧
      Spares w (w.dropHandle 0) 0 := by
  intro record announces withdraws
  have hrun : ((withAnnouncers .empty).handleAll? {}
      (announces "a" ++ announces "b" ++ withdraws)).any fun (w, c) =>
        w.quiet ∧ c.spent.get? 0 = some (some ⟨"b", 2⟩) ∧ c.spent.get? 1 = some (some ⟨"b", 3⟩) ∧
          w.owners.get? 0 = some "a" ∧ w.owners.get? 1 = some "b" ∧ c.freed = [] := by
    decide +kernel
  obtain ⟨⟨w, c⟩, hw, hfacts⟩ := (Option.any_eq_true ..).1 hrun
  obtain ⟨hquiet, hfirst, hsecond, hown, hown', hfreed⟩ := of_decide_eq_true hfacts
  have hrest := AtRest.of_quiet hquiet
  have h := Handling.start.handleAll hw
  refine ⟨w, c, hw, hrest, ?_, ?_, (h.released_iff 0).2 "a" (.dropHandle 0) _ rfl rfl⟩
  · obtain ⟨owner, howner, hiff⟩ := (h.released_iff 0).1 hrest _ hfirst
    obtain rfl := Option.some.inj (hown.symm.trans howner)
    by_contra hnone
    have hgone (n : String) : (w.announcer n).isCurrent 0 = false :=
      eq_false_of_ne_true fun he => hnone ⟨n, he⟩
    rcases hiff.1 hgone with he | hm
    · exact absurd he (by decide)
    · rw [hfreed] at hm
      cases hm
  · obtain ⟨owner, howner, hiff⟩ := (h.released_iff 1).1 hrest _ hsecond
    obtain rfl := Option.some.inj (hown'.symm.trans howner)
    exact hiff.2 (.inl rfl)

/-- A handle that is withdrawn at another announcer is consumed, and its announcement stays. -/
theorem handle_lost :
    let record : ServiceRecord := { instanceName := "a", serviceType := "t", port := 5000 }
    let announces : List (String × AnnouncerAction) :=
      [.announce record, .proceed 0, .proceed 0, .register 0, .register 0, .register 0,
        .proceed 0].map fun action => ("a", action)
    let withdraws : List (String × AnnouncerAction) :=
      [.withdraw 0, .proceed 0, .proceed 0].map fun action => ("b", action)
    ∃ w c, (withAnnouncers .empty).handleAll? {} (announces ++ withdraws) = some (w, c) ∧
      (∀ n, w.AtRest n) ∧ c.spent.get? 0 = some (some ⟨"b", 0⟩) ∧
      (w.announcer "a").isCurrent 0 = true ∧ (w.announcer "a").status = .active := by
  intro record announces withdraws
  refine ⟨_, _, rfl, .of_quiet ?_, rfl, rfl, rfl⟩
  decide +kernel

end World

end ServiceDiscovery
