import ServiceDiscovery.Proofs.Announcer.Late

/-!
# Prompt runs

In a prompt run (`World.Prompt`) no task is given up, a request to withdraw is
waited for, and the answer to a request to register is taken before anything else
happens. Every step is prompt then, so the registrations that came late account
for everything (`World.Prompt.accounted`): while the announcer is active and at
rest, they and its registration are all that is registered
(`World.Prompt.registered_iff`).
-/

namespace ServiceDiscovery

/-- Whether an action takes the answer to a request to register. -/
def AnnouncerAction.takes (action : AnnouncerAction) (name : String) (p : TaskRef) : Bool :=
  match action with
  | .register task => p = ⟨name, task⟩
  | _ => false

namespace Announcer

/-- A supervisor that notices that it was told to stop gives nothing back. -/
theorem givesBack_of_stopped {a : Announcer} {view : AnnouncerView} {t : Nat} {stepped : Stepped}
    (h : a.step? view t .stopped = some stepped) :
    ∃ x, a.tasks.get? t = some x ∧ x.givesBack = false := by
  unfold step? at h
  split at h
  · cases h
  · rename_i record stage hx
    exact ⟨_, hx, rfl⟩
  · rename_i target stage hx
    cases stage <;> cases h
  · rename_i id seen cancelled stage hx
    cases stage with
    | returning => cases h
    | watching | forgetting | calling | registering | pausing | dropping | adopting =>
      exact ⟨_, hx, rfl⟩

end Announcer

namespace World

/-! ## Prompt runs -/

/-- Whether an action is prompt: it gives no task up, nor a request to withdraw;
    and if a request to register was answered, it takes the answer. -/
def prompt (w : World) (name : String) (action : AnnouncerAction) : Bool :=
  (match action with
    | .abort _ => false
    | .expire task => !w.withdrawCalls.contains ⟨name, task⟩
    | _ => true) &&
  w.registerCalls.bindings.all fun (p, call) =>
    match call with
    | .answered _ _ => action.takes name p
    | _ => true

/-- The registrations that come late as one network becomes another. -/
def late (w w' : World) (name : String) : List Nat :=
  w'.registerCalls.bindings.filterMap fun (p, _) =>
    if p.announcer = name then (w.scene name).late? (w'.scene name) p.task else none

/-- The registrations that came late and are in the directory still, after one
    network became another. -/
def lateAfter (late : List Nat) (w w' : World) (name : String) : List Nat :=
  (late ++ w.late w' name).filter (w'.registry.registrations.contains ·)

/-- The networks in which an announcer may find itself if every action is prompt,
    each with the registrations that came late. -/
inductive Prompt (settings : AnnouncerSettings) (name : String) : World → List Nat → Prop
  | start : Prompt settings name (withAnnouncer settings name) []
  | step {w w' : World} {late : List Nat} {action : AnnouncerAction} :
      Prompt settings name w late → w.prompt name action = true →
      w.act? name action = some w' → Prompt settings name w' (lateAfter late w w' name)

/-- The network after a series of prompt actions, with the registrations that came
    late. -/
def actPromptly? (w : World) (name : String) (late : List Nat) :
    List AnnouncerAction → Option (World × List Nat)
  | [] => some (w, late)
  | action :: actions =>
    if w.prompt name action then
      (w.act? name action).bind fun w' => w'.actPromptly? name (lateAfter late w w' name) actions
    else none

variable {settings : AnnouncerSettings} {name : String} {w w' : World} {late : List Nat}
  {action : AnnouncerAction}

theorem Prompt.actPromptly {late' : List Nat} {actions : List AnnouncerAction}
    (h : Prompt settings name w late)
    (hw : w.actPromptly? name late actions = some (w', late')) :
    Prompt settings name w' late' := by
  induction actions generalizing w late with
  | nil =>
    obtain ⟨rfl, rfl⟩ := Prod.mk.inj (Option.some.inj hw)
    exact h
  | cons action actions ih =>
    obtain ⟨hprompt, hw⟩ := Option.ite_none_right_eq_some.1 hw
    obtain ⟨w₁, hfirst, hrest⟩ := Option.bind_eq_some_iff.1 hw
    exact ih (h.step hprompt hfirst) hrest

/-- A prompt run is a run. -/
theorem Prompt.announcing (h : Prompt settings name w late) : Announcing settings name w := by
  induction h with
  | start => exact .start
  | step _ _ hw ih => exact ih.step hw

/-- As long as an answer is not taken, nothing else happens. -/
theorem unanswered_of_prompt (h : w.prompt name action = true) {t : Nat}
    (hother : action ≠ .register t) :
    ((w.scene name).registers t).bind RegisterCall.gained? = none := by
  show (w.registerCalls.get? ⟨name, t⟩).bind RegisterCall.gained? = none
  cases hcall : w.registerCalls.get? ⟨name, t⟩ with
  | none => rfl
  | some call =>
    cases call with
    | delayed | requested | stalled | admitted => rfl
    | answered result due =>
      have htakes : action.takes name ⟨name, t⟩ = true :=
        List.all_eq_true.1 (Bool.and_eq_true_iff.1 h).2 _
          ((Association.mem_bindings_iff _).2 hcall)
      cases action with
      | register task =>
        have ht : (⟨name, t⟩ : TaskRef) = ⟨name, task⟩ := of_decide_eq_true htakes
        cases ht
        exact absurd rfl hother
      | _ => cases htakes

open Scene

theorem mem_late {id : Nat} :
    id ∈ w.late w' name ↔ ∃ t, (w.scene name).late? (w'.scene name) t = some id := by
  rw [World.late, List.mem_filterMap]
  constructor
  · rintro ⟨⟨p, call⟩, -, hp⟩
    exact ⟨p.task, (Option.ite_none_right_eq_some.1 hp).2⟩
  · rintro ⟨t, ht⟩
    -- The request that was answered is one of those under way.
    obtain ⟨-, -, -, -, hafter⟩ := late?_eq_some.1 ht
    obtain ⟨registration, hgained, -⟩ := Option.map_eq_some_iff.1 hafter
    obtain ⟨call, hcall, -⟩ := Option.bind_eq_some_iff.1 hgained
    exact ⟨(⟨name, t⟩, call), (Association.mem_bindings_iff _).2 hcall, (if_pos rfl).trans ht⟩

theorem lateMove_lateAfter :
    LateMove (w.scene name) (w'.scene name) late (lateAfter late w w' name) := by
  intro id
  show _ ↔ _ ∧ w'.registry.registrations.get? id ≠ none
  rw [lateAfter, List.mem_filter, List.mem_append, mem_late, Association.contains,
    Option.isSome_iff_ne_none]

/-- A prompt action is a prompt step. -/
theorem Announcing.prompt_step (h : Announcing settings name w)
    (hprompt : w.prompt name action = true) (hw : w.act? name action = some w') :
    (w.scene name).Step True (w'.scene name) := by
  have hanswered {t : Nat} (hother : action ≠ .register t) := unanswered_of_prompt hprompt hother
  refine .of_act hw ?_ (fun _ => ?_) fun _ => ?_
  · rintro t rfl
    cases hprompt
  · rintro t (rfl | rfl)
    · obtain ⟨stepped, hstep, -⟩ := signal?_eq_some hw
      obtain ⟨x, hx, hback⟩ := Announcer.givesBack_of_stopped hstep
      have hnone : (w.scene name).withdrawals t = none :=
        h.sound.order.withdrawals_eq_none hx hback
      exact ⟨hanswered (fun he => by cases he), by rw [hnone, Option.bind_none]⟩
    · have hnone : w.withdrawCalls.get? ⟨name, t⟩ = none := by
        simpa [Association.contains] using (Bool.and_eq_true_iff.1 hprompt).1
      refine ⟨hanswered (fun he => by cases he), ?_⟩
      show (w.withdrawCalls.get? ⟨name, t⟩).bind WithdrawCall.pending? = none
      rw [hnone, Option.bind_none]
  · rintro t rfl
    exact hanswered fun he => by cases he

namespace Prompt

/-- In a prompt run everything is accounted for. -/
theorem accounted (h : Prompt settings name w late) : (w.scene name).Accounted late := by
  induction h with
  | start =>
    have hempty (id : Nat) :
        ((withAnnouncer settings name).scene name).registry.registrations.get? id = none := rfl
    refine ⟨fun hheld => absurd (hempty _) hheld, fun _ hheld => absurd (hempty _) hheld,
      fun _ hid => ?_, fun hid => ?_, fun hid => ?_⟩
    all_goals cases hid
  | step hrun hprompt hw ih =>
    have hannouncing := hrun.announcing
    exact ih.step hannouncing.sound (hannouncing.prompt_step hprompt hw) lateMove_lateAfter

/-- At rest, the registration of what is active is the only one that is kept. -/
theorem keeps?_eq_some (h : Announcing settings name w) (hrest : w.AtRest name)
    {announcement : Announcement} {registration : Registration}
    (hc : (w.announcer name).current = some announcement)
    (hregistration : announcement.registration = some registration) (id : Nat) :
    (∃ k, (w.scene name).keeps? k = some id) ↔ id = registration.id := by
  have hkeeps : (w.scene name).keeps? .announcement = some registration.id := by
    rw [keeps?, registration?_of_current (a := (w.scene name).announcer) hc, hregistration,
      Option.map_some]
  refine ⟨?_, ?_⟩
  · rintro ⟨k, hk⟩
    obtain rfl := hrest.eq_announcement h.sound.order hk
    exact (Option.some.inj (hkeeps.symm.trans hk)).symm
  · rintro rfl
    exact ⟨_, hkeeps⟩

/-- At rest, what is registered while the announcer is active is its registration,
    and what came late. Hence it is the only one exactly if nothing came late. -/
theorem registered_iff (h : Prompt settings name w late) (hrest : w.AtRest name)
    (hactive : (w.announcer name).status = .active) : ∃ registration,
      (w.announcer name).registration? = some registration ∧
      (∀ id, w.registry.registrations.get? id ≠ none ↔ id = registration.id ∨ id ∈ late) ∧
      ((∀ id, w.registry.registrations.get? id ≠ none → id = registration.id) ↔ late = []) := by
  have hannouncing := h.announcing
  have haccounted := h.accounted
  obtain ⟨announcement, registration, t, hc, hregistration, hx⟩ :=
    hannouncing.active_watched hrest hactive
  have hmeant : (w.scene name).Meant .announcement registration.id
      (some w.registry.generation) announcement.record := .watching hc hx hregistration
  have hheld : w.registry.registrations.get? registration.id ≠ none := by
    rcases hannouncing.sound.freshness.backed hmeant with hheld | hmissed
    · exact hheld ▸ Option.some_ne_none _
    · exact absurd hmissed (Nat.lt_irrefl _)
  have hkept (id : Nat) := keeps?_eq_some hannouncing hrest hc hregistration id
  refine ⟨registration, ?_, ?_, ?_⟩
  · rw [registration?_of_current hc, hregistration]
  · intro id
    constructor
    · intro hid
      rcases haccounted.held hid with hlate | hkeeper
      · exact .inr hlate
      · exact .inl ((hkept id).1 hkeeper)
    · rintro (rfl | hlate)
      · exact hheld
      · exact haccounted.standing hlate
  · constructor
    · intro hsingle
      rw [List.eq_nil_iff_forall_not_mem]
      intro id hlate
      -- The supervisor of what came late would have a restart to notice.
      obtain rfl := hsingle id (haccounted.standing hlate)
      exact Nat.lt_irrefl _ (haccounted.behind hmeant hlate)
    · rintro rfl id hid
      rcases haccounted.held hid with hlate | hkeeper
      · cases hlate
      · exact (hkept id).1 hkeeper

/-- After a restart, the record is registered again and the only one. -/
theorem registered_iff_restarted :
    let record : ServiceRecord := { instanceName := "nas", serviceType := "t", port := 5000 }
    let register (task : Nat) : List AnnouncerAction :=
      [.proceed task, .register task, .register task, .register task, .proceed task]
    let actions : List AnnouncerAction :=
      [.announce record, .proceed 0] ++ register 0 ++
      [.change .restart, .proceed 1, .proceed 1] ++ register 1
    ∃ w, (withAnnouncer {} "a").actPromptly? "a" [] actions = some (w, []) ∧ w.AtRest "a" ∧
      (w.announcer "a").status = .active ∧ ∃ registration,
        (w.announcer "a").registration? = some registration ∧
        (∀ id, w.registry.registrations.get? id ≠ none ↔ id = registration.id ∨ id ∈ []) ∧
        ((∀ id, w.registry.registrations.get? id ≠ none → id = registration.id) ↔
          ([] : List Nat) = []) := by
  intro record register actions
  have hrun : ∃ w, (withAnnouncer {} "a").actPromptly? "a" [] actions = some (w, []) ∧
      w.AtRest "a" ∧ (w.announcer "a").status = .active := by
    revert record register actions
    refine ⟨_, rfl, .of_keys rfl (fun _ => rfl) (fun _ => rfl) ?_, rfl⟩
    exact List.forall_mem_singleton.2 ⟨rfl, fun x hx => by cases hx; rfl⟩
  obtain ⟨w, hw, hrest, hactive⟩ := hrun
  exact ⟨w, hw, hrest, hactive, (Prompt.start.actPromptly hw).registered_iff hrest hactive⟩

/-- The directory restarts a second time while the supervisor pauses after a
    refusal. What it registers then it forgets at once, as it has yet to notice
    that restart, and registers again: the directory has two registrations of an
    announcer that is active and at rest. -/
theorem registered_twice :
    let record : ServiceRecord := { instanceName := "nas", serviceType := "t", port := 5000 }
    let register (task : Nat) : List AnnouncerAction :=
      [.proceed task, .register task, .register task, .register task]
    let actions : List AnnouncerAction :=
      [.announce record, .proceed 0] ++ register 0 ++ [.proceed 0] ++
      [.change (.failRegisters 1), .change .restart, .proceed 1, .proceed 1] ++ register 1 ++
      [.change .restart, .wait (10000000000), .expire 1] ++ register 1 ++
      [.proceed 1, .proceed 1, .proceed 1] ++ register 1 ++ [.proceed 1]
    ∃ w, (withAnnouncer {} "a").actPromptly? "a" [] actions = some (w, [2]) ∧
      Prompt {} "a" w [2] ∧ w.AtRest "a" ∧ (w.announcer "a").status = .active ∧
      (w.announcer "a").registration? = some ⟨3, "nas.t"⟩ ∧
      w.registry.registrations.get? 2 = some record ∧
      w.registry.registrations.get? 3 = some record := by
  intro record register actions
  have hrun : ∃ w,
      (withAnnouncer {} "a").actPromptly? "a" [] actions = some (w, [2]) ∧ w.AtRest "a" ∧
      (w.announcer "a").status = .active ∧
      (w.announcer "a").registration? = some ⟨3, "nas.t"⟩ ∧
      w.registry.registrations.get? 2 = some record ∧
      w.registry.registrations.get? 3 = some record := by
    revert record register actions
    refine ⟨_, rfl, .of_keys rfl (fun _ => rfl) (fun _ => rfl) ?_, rfl, rfl, rfl, rfl⟩
    exact List.forall_mem_singleton.2 ⟨rfl, fun x hx => by cases hx; rfl⟩
  obtain ⟨w, hw, hfacts⟩ := hrun
  exact ⟨w, hw, Prompt.start.actPromptly hw, hfacts⟩

end Prompt

end World

end ServiceDiscovery
