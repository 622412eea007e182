import ServiceDiscovery.Proofs.Announcer.Sharing
import ServiceDiscovery.Proofs.Announcer.Turn

/-!
# Bystanders

What is done with the handle of an announcement, by whomever it is done, concerns no
other announcement (`World.Spares`): none is taken or changed, what is asked to be
withdrawn is the registration of the announcement itself, and a registration changes
only by such a request (`World.Concerns.spares`).
-/

namespace ServiceDiscovery

namespace Announcer

variable {a : Announcer} {t id : Nat} {stage : ReleaseStage} {view : AnnouncerView}
  {signal : AnnouncerSignal} {stepped : Stepped}

/-- A release of an announcement takes that one or none. -/
theorem current_of_release (hx : a.tasks.get? t = some (.release (some id) stage))
    (h : a.stepRelease view t (some id) stage signal = some stepped) :
    stepped.1.current = a.current ∨ a.currentId? = some id ∧ stepped.1.current = none := by
  have hturn := turn_of_stepRelease hx h
  cases hturn with
  | release hx' hreleases =>
    cases hx.symm.trans hx'
    cases hreleases with
    | handed hc | joined _ hc | missed _ hc | ended hc => exact .inl hc
    | taken _ _ hfound hc =>
      obtain ⟨hid, htarget⟩ := currentId?_of_filter hfound
      exact .inr ⟨htarget id rfl ▸ hid, hc⟩
  | other hnone | stored hnone =>
    rw [release?, hx] at hnone
    cases hnone
  | dropped hx' => cases hx.symm.trans hx'

/-- What a release of an announcement asks to be withdrawn is its registration. -/
theorem withdraws_of_release
    (h : a.stepRelease view t (some id) stage signal = some stepped) :
    (∀ t' registration, .withdraw t' registration ∉ stepped.2) ∨
      ∃ announcement registration, a.current = some announcement ∧ announcement.id = id ∧
        announcement.registration = some registration ∧
        stepped.2 = [.withdraw t registration] := by
  cases stage with
  | handed =>
    cases signal with
    | registered | withdrawn | expired | stopped => cases h
    | proceed =>
      obtain rfl := Option.some.inj h
      exact .inl fun _ _ => List.not_mem_nil
  | taking =>
    cases signal with
    | registered | withdrawn | expired | stopped => cases h
    | proceed =>
      rcases guarded_eq_some h with ⟨-, rfl⟩ | ⟨-, rfl⟩
      · rw [take]
        split
        · exact .inl (by simp [finish])
        · rename_i announcement hfound
          obtain ⟨hc, htarget⟩ := Option.filter_eq_some_iff.1 hfound
          have hid : id = announcement.id := of_decide_eq_true htarget
          dsimp only
          split
          · exact .inl (by simp [finish])
          · rename_i registration hregistration
            exact .inr ⟨announcement, registration, hc, hid.symm, hregistration, rfl⟩
      · exact .inl fun _ _ => List.not_mem_nil
  | withdrawing registration deadline =>
    have hnone : ∀ t' registration, .withdraw t' registration ∉ (a.released t).2 := by
      simp [released, finishForgoing]
    cases signal with
    | proceed | registered | stopped => cases h
    | withdrawn =>
      obtain rfl := Option.some.inj h
      exact .inl hnone
    | expired =>
      obtain ⟨-, hstepped⟩ := Option.ite_none_right_eq_some.1 h
      obtain rfl := Option.some.inj hstepped
      exact .inl hnone

/-- A task that is given up leaves what is announced, and asks for nothing. -/
theorem abort_frame (a : Announcer) (t : Nat) :
    (a.abort t).1.current = a.current ∧
      ∀ t' registration, .withdraw t' registration ∉ (a.abort t).2 := by
  rw [abort]
  split
  · rename_i record stage _
    cases stage with
    | claiming | subscribing | registering | storing =>
      exact ⟨rfl, by simp [abortAnnounce]⟩
  · rename_i target stage _
    cases stage with
    | handed => exact ⟨rfl, by cases target <;> simp [abortRelease]⟩
    | taking | withdrawing => exact ⟨rfl, by simp [abortRelease]⟩
  · exact ⟨rfl, fun _ _ => List.not_mem_nil⟩

end Announcer

namespace World

open Scene

/-- What is done with the handle of an announcement: it is withdrawn or dropped, or a
    release of the announcement goes on, or is given up. -/
def Concerns (w : World) (id : Nat) (name : String) : AnnouncerAction → Prop
  | .withdraw i | .dropHandle i => i = id
  | .proceed t | .stop t | .expire t | .register t | .unregister t | .abort t =>
    ∃ stage, (w.announcer name).release? t = some (some id, stage)
  | _ => False

/-- No announcement but that of a number has any part in what happens. -/
structure Spares (w w' : World) (id : Nat) : Prop where
  current : ∀ {n announcement}, announcement.id ≠ id →
    ((w'.announcer n).current = some announcement ↔ (w.announcer n).current = some announcement)
  status : ∀ {n announcement}, announcement.id ≠ id →
    (w.announcer n).current = some announcement →
    (w'.announcer n).status = (w.announcer n).status
  /-- What is newly asked to be withdrawn is the registration of the announcement. -/
  withdrawals : ∀ {n t r}, (w'.scene n).keeps? (.withdrawal t) = some r →
    (w.scene n).keeps? (.withdrawal t) = some r ∨
      (w.announcer n).currentId? = some id ∧ (w.scene n).keeps? .announcement = some r
  /-- A registration changes only if a release of the announcement has it withdrawn, and
      then nobody else keeps it. -/
  registrations : ∀ {r}, w'.registry.registrations.get? r ≠ w.registry.registrations.get? r →
    ∃ n t stage, (w.announcer n).release? t = some (some id, stage) ∧
      ∀ n' k, (w.scene n').keeps? k = some r ↔ n' = n ∧ k = .withdrawal t

variable {settings : Association String AnnouncerSettings} {w w' : World} {name : String}
  {id : Nat} {action : AnnouncerAction}

/-! ## What effects leave -/

/-- Effects are never on the directory, and end requests if they put none. -/
theorem applyEffect_frame (name : String) (w : World) {effect : AnnouncerEffect}
    (h : ∀ t registration, effect ≠ .withdraw t registration) :
    (applyEffect name w effect).registry = w.registry ∧
      ∀ {p call}, (applyEffect name w effect).withdrawCalls.get? p = some call →
        w.withdrawCalls.get? p = some call := by
  cases effect with
  | register => exact ⟨rfl, fun h => h⟩
  | withdraw t registration => exact absurd rfl (h t registration)
  | forgo t =>
    refine ⟨rfl, fun {p call} hcall => ?_⟩
    have hcall : (w.withdrawCalls.erase ⟨name, t⟩).get? p = some call := hcall
    rw [Association.get?_erase] at hcall
    split at hcall
    · cases hcall
    · exact hcall
  | drop i =>
    rw [applyEffect, dropHandle_frame]
    exact ⟨rfl, fun h => h⟩
  | ended t result =>
    cases result with
    | announced | refused | released | unattended =>
      simp only [applyEffect]
      rw [conclude_frame]
      exact ⟨rfl, fun h => h⟩

theorem effects_frame (name : String) (w : World) {effects : List AnnouncerEffect}
    (h : ∀ t registration, .withdraw t registration ∉ effects) :
    (effects.foldl (applyEffect name) w).registry = w.registry ∧
      ∀ {p call}, (effects.foldl (applyEffect name) w).withdrawCalls.get? p = some call →
        w.withdrawCalls.get? p = some call := by
  induction effects generalizing w with
  | nil => exact ⟨rfl, fun h => h⟩
  | cons effect effects ih =>
    have hrest := ih (applyEffect name w effect) fun t registration hm =>
      h t registration (List.mem_cons_of_mem _ hm)
    have hfirst := applyEffect_frame name w fun t registration he =>
      h t registration (he ▸ List.mem_cons_self)
    exact ⟨hrest.1.trans hfirst.1, fun hcall => hfirst.2 (hrest.2 hcall)⟩

/-! ## Actions -/

namespace Spares

/-- The status follows what is announced. -/
theorem of_upright (hu : ∀ n, Upright (w.scene n)) (hu' : ∀ n, Upright (w'.scene n))
    (hc : ∀ n, (w'.announcer n).current = (w.announcer n).current ∨
      (w.announcer n).currentId? = some id ∧ (w'.announcer n).current = none)
    (hwithdrawals : ∀ {n t r}, (w'.scene n).keeps? (.withdrawal t) = some r →
      (w.scene n).keeps? (.withdrawal t) = some r ∨
        (w.announcer n).currentId? = some id ∧ (w.scene n).keeps? .announcement = some r)
    (hregistrations : ∀ {r},
      w'.registry.registrations.get? r ≠ w.registry.registrations.get? r →
      ∃ n t stage, (w.announcer n).release? t = some (some id, stage) ∧
        ∀ n' k, (w.scene n').keeps? k = some r ↔ n' = n ∧ k = .withdrawal t) :
    Spares w w' id := by
  have hcurrent {n : String} {announcement : Announcement} (hne : announcement.id ≠ id) :
      (w'.announcer n).current = some announcement ↔
        (w.announcer n).current = some announcement := by
    rcases hc n with he | ⟨hid, hnone⟩
    · rw [he]
    · rw [hnone]
      refine ⟨by simp, fun he => ?_⟩
      rw [Announcer.currentId?, he] at hid
      exact absurd (Option.some.inj hid) hne
  refine ⟨hcurrent, fun {n announcement} hne he => ?_, hwithdrawals, hregistrations⟩
  exact ((hu' n).status.current ((hcurrent hne).2 he)).2.trans
    ((hu n).status.current he).2.symm

/-- Nothing is taken, nor asked of the directory. -/
theorem of_still (hu : ∀ n, Upright (w.scene n)) (hu' : ∀ n, Upright (w'.scene n))
    (hc : ∀ n, (w'.announcer n).current = (w.announcer n).current)
    (hcalls : ∀ {p call}, w'.withdrawCalls.get? p = some call →
      w.withdrawCalls.get? p = some call)
    (hregistry : w'.registry = w.registry) : Spares w w' id := by
  refine .of_upright hu hu' (fun n => .inl (hc n)) (fun {n t r} hr => .inl ?_)
    fun hr => absurd (by rw [hregistry]) hr
  obtain ⟨call, hcall, hpending⟩ := Option.bind_eq_some_iff.1 hr
  exact Option.bind_eq_some_iff.2 ⟨call, hcalls hcall, hpending⟩

/-- A release of the announcement takes a signal. -/
theorem signalled {w₀ : World} {t : Nat} {stage : ReleaseStage} {signal : AnnouncerSignal}
    (hu : ∀ n, Upright (w₀.scene n)) (hu' : ∀ n, Upright (w'.scene n))
    (ha : ∀ n, w.announcer n = w₀.announcer n) (hregistry : w.registry = w₀.registry)
    (hcalls : ∀ {p call}, w.withdrawCalls.get? p = some call →
      w₀.withdrawCalls.get? p = some call)
    (hr : (w.announcer name).release? t = some (some id, stage))
    (hw : w.signal? ⟨name, t⟩ signal = some w') : Spares w₀ w' id := by
  obtain ⟨stepped, hstep, rfl⟩ := signal?_eq_some hw
  have hannouncer (n : String) : (w.afterAnnouncer name stepped).announcer n =
      if n = name then stepped.1 else w.announcer n :=
    announcer_afterAnnouncer w (Lifetime.drop_not_mem hstep) n
  obtain ⟨x, hx, hrelease⟩ := Option.bind_eq_some_iff.1 hr
  cases x with
  | announce | supervise => cases hrelease
  | release target stage' =>
    obtain ⟨rfl, rfl⟩ := Prod.mk.inj (Option.some.inj hrelease)
    rw [Announcer.step?, hx] at hstep
    have hc (n : String) : ((w.afterAnnouncer name stepped).announcer n).current =
          (w₀.announcer n).current ∨
        (w₀.announcer n).currentId? = some id ∧
          ((w.afterAnnouncer name stepped).announcer n).current = none := by
      rw [hannouncer, ← ha]
      split
      · rename_i hn
        subst hn
        exact Announcer.current_of_release hx hstep
      · exact .inl rfl
    have hpending {n : String} {t' r : Nat} {w₁ : World}
        (hcalls' : ∀ {p call}, w₁.withdrawCalls.get? p = some call →
          w.withdrawCalls.get? p = some call)
        (hkeeps : (w₁.scene n).keeps? (.withdrawal t') = some r) :
        (w₀.scene n).keeps? (.withdrawal t') = some r := by
      obtain ⟨call, hcall, hp⟩ := Option.bind_eq_some_iff.1 hkeeps
      exact Option.bind_eq_some_iff.2 ⟨call, hcalls (hcalls' hcall), hp⟩
    rcases Announcer.withdraws_of_release hstep with
      hnone | ⟨announcement, registration, hcurrent, hid, hregistration, he⟩
    · obtain ⟨hsame, hfewer⟩ := effects_frame name (w.setAnnouncer name stepped.1) hnone
      exact .of_upright hu hu' hc (fun hkeeps => .inl (hpending hfewer hkeeps))
        fun hne => absurd (by rw [afterAnnouncer, hsame, ← hregistry]; rfl) hne
    · have heffect : w.afterAnnouncer name stepped =
          applyEffect name (w.setAnnouncer name stepped.1) (.withdraw t registration) := by
        rw [afterAnnouncer, he]
        rfl
      rw [heffect] at hc hu' ⊢
      refine .of_upright hu hu' hc (fun {n t' r} hkeeps => ?_)
        fun hne => absurd (by rw [← hregistry]; rfl) hne
      obtain ⟨call, hcall, hp⟩ := Option.bind_eq_some_iff.1 hkeeps
      have hput : (w.withdrawCalls.put ⟨name, t⟩ (.requested registration.id)).get? ⟨n, t'⟩ =
        some call := hcall
      rw [Association.get?_put] at hput
      split at hput
      · rename_i hp'
        obtain ⟨rfl, rfl⟩ := TaskRef.mk.inj hp'
        obtain rfl := Option.some.inj hput
        obtain rfl := Option.some.inj hp
        rw [ha] at hcurrent
        right
        simp only [Announcer.currentId?, keeps?, scene, Announcer.registration?, hcurrent,
          Option.map_some, Option.bind_some, hid, hregistration, and_self]
      · exact .inl (Option.bind_eq_some_iff.2 ⟨call, hcalls hput, hp⟩)

end Spares

/-- The directory goes on with a request to withdraw. -/
theorem withdraw_advance {call call' : WithdrawCall} {registry : Registry}
    (h : call.advance? w.registry w.now = some (registry, call')) :
    (∀ r, call'.pending? = some r → call.pending? = some r) ∧
      ∀ r, registry.registrations.get? r ≠ w.registry.registrations.get? r →
        call.pending? = some r := by
  have hunregister (i : Nat) (r : Nat)
      (hne : (w.registry.unregister i).registrations.get? r ≠
        w.registry.registrations.get? r) : some i = some r := by
    by_cases hr : r = i
    · rw [hr]
    · exact absurd (Association.get?_erase_of_ne _ hr) hne
  cases call with
  | requested i =>
    rw [WithdrawCall.advance?] at h
    split at h
    · obtain ⟨rfl, rfl⟩ := Prod.mk.inj (Option.some.inj h)
      exact ⟨fun _ h => h, fun _ hne => absurd rfl hne⟩
    · obtain ⟨rfl, rfl⟩ := Prod.mk.inj (Option.some.inj h)
      exact ⟨fun _ he => (by cases he), hunregister i⟩
  | delayed i moment =>
    obtain ⟨-, h⟩ := Option.ite_none_right_eq_some.1 h
    obtain ⟨rfl, rfl⟩ := Prod.mk.inj (Option.some.inj h)
    exact ⟨fun _ he => (by cases he), hunregister i⟩
  | answered => cases h

/-- The directory goes on with what a release asked of it. -/
theorem Spares.unregister {t : Nat} {stage : ReleaseStage} (h : Sharing settings w)
    (hr : (w.announcer name).release? t = some (some id, stage))
    (hw : w.act? name (.unregister t) = some w') : Spares w w' id := by
  have hu := h.upright
  have hu' := (h.step hw).upright
  obtain ⟨call, hcall, hw⟩ := Option.bind_eq_some_iff.1 hw
  split at hw
  · exact Spares.signalled (w := { w with withdrawCalls := w.withdrawCalls.erase ⟨name, t⟩ })
      hu hu' (fun _ => rfl) rfl
      (fun hcall => (Association.get?_erase_eq_some_iff.1 hcall).2) hr hw
  · obtain ⟨⟨registry, call'⟩, hadvance, rfl⟩ := Option.map_eq_some_iff.1 hw
    obtain ⟨hpending, hregistry⟩ := withdraw_advance hadvance
    refine .of_upright hu hu' (fun _ => .inl rfl) (fun {n t' r} hkeeps => .inl ?_)
      fun {r} hne => ?_
    · obtain ⟨call₀, hcall₀, hp⟩ := Option.bind_eq_some_iff.1 hkeeps
      have hput : (w.withdrawCalls.put ⟨name, t⟩ call').get? ⟨n, t'⟩ = some call₀ := hcall₀
      rw [Association.get?_put] at hput
      split at hput
      · rename_i hp'
        obtain ⟨rfl, rfl⟩ := TaskRef.mk.inj hp'
        obtain rfl := Option.some.inj hput
        exact Option.bind_eq_some_iff.2 ⟨call, hcall, hpending r hp⟩
      · exact Option.bind_eq_some_iff.2 ⟨call₀, hput, hp⟩
    · have hkeeps : (w.scene name).keeps? (.withdrawal t) = some r :=
        Option.bind_eq_some_iff.2 ⟨call, hcall, hregistry r hne⟩
      refine ⟨name, t, stage, hr, fun n' k => ⟨fun hk => h.apart hk hkeeps, ?_⟩⟩
      rintro ⟨rfl, rfl⟩
      exact hkeeps

/-- A task is given up. -/
theorem Spares.abort (h : Sharing settings w) (t id : Nat) :
    Spares w (w.abortTask ⟨name, t⟩) id := by
  obtain ⟨hc, hnone⟩ := (w.announcer name).abort_frame t
  obtain ⟨hregistry, hcalls⟩ :=
    effects_frame name (w.setAnnouncer name ((w.announcer name).abort t).1) hnone
  have hset (n : String) :
      ((w.setAnnouncer name ((w.announcer name).abort t).1).announcer n).current =
        (w.announcer n).current := by
    rw [announcer_setAnnouncer]
    split
    · rename_i hn
      rw [hn, hc]
    · rfl
  have hstep : Sharing settings (w.abortTask ⟨name, t⟩) :=
    @Sharing.step settings w (w.abortTask ⟨name, t⟩) name (.abort t) h rfl
  refine .of_still h.upright hstep.upright (fun n => ?_) ?_ ?_
  · rw [abortTask, conclude_frame]
    change ((w.afterAnnouncer name ((w.announcer name).abort t)).announcer n).current = _
    rcases (w.announcer name).abort_effects t with hdrop | ⟨i, -, he⟩
    · rw [announcer_afterAnnouncer w hdrop, ← announcer_setAnnouncer]
      exact hset n
    · rw [he] at hset ⊢
      change (((w.setAnnouncer name ((w.announcer name).endTask t)).dropHandle i).announcer
        n).current = _
      rw [announcer_dropHandle, ← hset n]
      split <;> rfl
  · rw [abortTask, conclude_frame]
    exact hcalls
  · rw [abortTask, conclude_frame]
    exact hregistry

/-- What is done with the handle of an announcement spares all others. -/
theorem Concerns.spares (h : Sharing settings w) (hconcerns : w.Concerns id name action)
    (hw : w.act? name action = some w') : Spares w w' id := by
  have hu := h.upright
  have hu' := (h.step hw).upright
  have hkept {p : TaskRef} {call : WithdrawCall} :
    w.withdrawCalls.get? p = some call → w.withdrawCalls.get? p = some call := fun h => h
  cases action with
  | withdraw i =>
    obtain rfl := Option.some.inj hw
    refine .of_still hu hu' (fun n => ?_) hkept rfl
    rw [startTask, announcer_setAnnouncer]
    split
    · rename_i hn
      rw [hn]
      rfl
    · rfl
  | dropHandle i =>
    obtain rfl := Option.some.inj hw
    have hframe := w.dropHandle_frame i
    refine .of_still hu hu' (fun n => ?_) (by rw [hframe]; exact hkept) (by rw [hframe])
    rw [announcer_dropHandle]
    split <;> rfl
  | proceed | stop | expire =>
    obtain ⟨stage, hr⟩ := hconcerns
    exact .signalled hu hu' (fun _ => rfl) rfl hkept hr hw
  | register t =>
    -- A release has no request to register under way.
    obtain ⟨stage, hr⟩ := hconcerns
    obtain ⟨x, hx, hrelease⟩ := Option.bind_eq_some_iff.1 hr
    have hasked : x.asked? = none := by
      cases x with
      | release => rfl
      | announce | supervise => cases hrelease
    have hnone : w.registerCalls.get? ⟨name, t⟩ = none :=
      (hu name).order.registers_eq_none hx hasked
    rw [act?, stepRegisterCall?, hnone] at hw
    cases hw
  | unregister t =>
    obtain ⟨stage, hr⟩ := hconcerns
    exact .unregister h hr hw
  | abort t =>
    obtain rfl := Option.some.inj hw
    exact .abort h t id
  | announce | shutdown | change | lag | wait => exact hconcerns.elim

end World

end ServiceDiscovery
